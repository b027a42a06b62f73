import GraphCache.Proofs.Routing

/-! Which mutations make the cache forget. The first root that the caller's map names decides
for the whole document: unless it inserts, nothing can be read from the store any more. A
document in which no root inserts always makes it forget; one that inserts first and then
deletes does not. -/
namespace GraphCache

/-- A store in which nothing can be found at any time. -/
structure Store.Blank {τ : Type} [Instant τ] (store : Store τ) : Prop where
  lookups : ∀ now key, store.lookup now key = .ok []
  finds : ∀ now typeName identifier, store.find now typeName identifier = .ok []

variable {τ : Type} [Instant τ]

theorem Keeping.blank_empty (kind : Keeping) : (kind.empty : Store τ).Blank := by
  cases kind with
  | memory => exact ⟨fun _ _ => rfl, fun _ _ _ => rfl⟩
  | tables =>
    refine ⟨fun _ _ => rfl, fun now typeName identifier => ?_⟩
    simp [Keeping.empty, Store.find, Table.find, Table.records, Table.empty]

namespace Client

/-- The root that decides about a mutation is known to insert. -/
def Inserts (asked : Call) (compiled : Compilation) : Prop :=
  ∃ root node, findMutation (mappedNames asked.mutationMap) compiled.prototype =
    .ok (some (root, node)) ∧ isInsertType node.mutationType = true

variable {client : Client τ} {asked : Call} {settings : Settings} {document : Document}

omit [Instant τ] in
private theorem openCleared_ok {notices : List Notice} {opening plan : Opening τ} {store : Store τ}
    (opened : (client.openCleared notices plan store).result = .ok opening) :
    (client.openCleared notices plan store).store = store.kind.empty ∧ opening = plan := by
  rw [openCleared] at opened ⊢
  cases store with
  | memory state => cases opened; exact ⟨rfl, rfl⟩
  | tables state =>
    cases state with
    | none => cases opened
    | some state => cases opened; exact ⟨rfl, rfl⟩

/-- A mutation that is not known to insert goes on with an empty store. -/
theorem openMutation_ok {compiled : Compilation} {store : Store τ} {opening : Opening τ}
    (opened : (client.openMutation settings asked compiled store).result = .ok opening)
    (others : ¬Inserts asked compiled) :
    (client.openMutation settings asked compiled store).store = store.kind.empty ∧
      opening.plan = .wrap := by
  rw [openMutation] at opened ⊢
  cases found : findMutation (mappedNames asked.mutationMap) compiled.prototype with
  | error cause => simp [found] at opened
  | ok first =>
    rw [found] at opened
    cases first with
    | none =>
      obtain ⟨empty, rfl⟩ := openCleared_ok opened
      exact ⟨empty, rfl⟩
    | some entry =>
      obtain ⟨root, node⟩ := entry
      have plain : isInsertType node.mutationType = false := by
        by_contra inserts
        exact others ⟨root, node, found, by simpa using inserts⟩
      simp only [plain, Bool.false_eq_true, ↓reduceIte] at opened ⊢
      obtain ⟨empty, rfl⟩ := openCleared_ok opened
      exact ⟨empty, rfl⟩

theorem finish_wrap {opening : Opening τ} (plan : opening.plan = .wrap)
    (delivery : Delivery) (store : Store τ) (now : τ) :
    (client.finish opening delivery store now).store = store := by
  rw [finish, plan]
  split <;> rfl

/-- A store in which something can be found. -/
private def remembering : Store τ :=
  .memory ⟨[("a--1", ⟨"a--1", "a", "1", [], false, none⟩)],
    [(.text "a", ⟨.text "a", .text "a", ["a--1"], false, none⟩)]⟩

private theorem not_blank_remembering : ¬(remembering : Store τ).Blank := by
  intro blank
  have found := blank.lookups (Instant.ofSeconds 0) "a"
  simp [remembering, Store.lookup, Memory.lookup, OrderedMap.get?, IndexEntry.isLive,
    Record.isLive, hasExpired] at found

/-- A mutation that is known to insert may leave everything where it was. -/
private theorem insert_remembers (client : Client τ) (settings : Settings)
    {compiled : Compilation} (inserts : Inserts asked compiled) :
    ∃ opening returned,
      client.openMutation settings asked compiled remembering =
        ⟨compiled.notices, remembering, .ok opening⟩ ∧
      (client.finish opening .silence remembering (Instant.ofSeconds 0)).result = .ok returned ∧
      (client.finish opening .silence remembering (Instant.ofSeconds 0)).store = remembering := by
  obtain ⟨root, node, found, insert⟩ := inserts
  refine ⟨⟨request settings asked "POST",
      .insert (deposit settings asked compiled.prototype true) node.mutationType⟩,
    wrap .null [("data", .null)], ?_, ?_⟩
  · rw [openMutation, found]
    simp only [insert, ↓reduceIte]
  · have kept := Store.deposit_null (remembering : Store τ) client.filing (Instant.ofSeconds 0)
      (show (deposit settings asked compiled.prototype true .null : Deposit τ).data = .null from rfl)
    have data : dataOf [("data", .null)] = .null := rfl
    simp [finish, Delivery.silence_answer, carryOut, file, data, kept]

/-- A mutation makes the cache forget everything exactly if the root that decides about it is
not known to insert: then nothing can be read when the call has returned, whatever the store
held and whatever was answered. -/
theorem mutation_forgets_iff
    (options : client.settings.withOptions client.homes asked.options = .ok settings)
    (reads : readQuery asked.query = .ok document)
    (mutation : (document.compile settings.cache.custom).route = .mutation) :
    (∀ store early opening delivery now returned,
        (client.begin asked store early).result = .ok opening →
        (client.finish opening delivery (client.begin asked store early).store now).result =
          .ok returned →
        (client.finish opening delivery (client.begin asked store early).store now).store.Blank) ↔
      ¬Inserts asked (document.compile settings.cache.custom) := by
  have begun (store : Store τ) (early : τ) : client.begin asked store early =
      client.openMutation settings asked (document.compile settings.cache.custom) store := by
    simp [begin, options, reads, mutation]
  simp only [begun]
  constructor
  · intro forgets inserts
    obtain ⟨opening, returned, opened, finished, kept⟩ := insert_remembers client settings inserts
    have blank := forgets remembering (Instant.ofSeconds 0) opening .silence (Instant.ofSeconds 0)
      returned (by rw [opened]) (by rw [opened]; exact finished)
    rw [opened] at blank
    exact not_blank_remembering (kept ▸ blank)
  · intro others store early opening delivery now returned opened _
    obtain ⟨empty, plan⟩ := openMutation_ok opened others
    rw [finish_wrap plan, empty]
    exact Keeping.blank_empty _

private theorem mem_of_findMutation {names : List String} {prototype : Prototype} {root : String}
    {node : Node} (found : findMutation names prototype = .ok (some (root, node))) :
    (root, node) ∈ prototype := by
  induction prototype with
  | nil => cases found
  | cons entry rest ih =>
    simp only [findMutation, bind, except_bind_ok] at found
    obtain ⟨mapped, _, found⟩ := found
    cases mapped with
    | true =>
      cases found
      exact List.mem_cons_self
    | false => exact List.mem_cons_of_mem _ (ih found)

/-- A document in which no root inserts is not known to insert. -/
theorem not_inserts {custom : Option String} (unmarked : document.Unmarked)
    (clear : (document.compile custom).obstacle = none)
    (others : ∀ root ∈ document.roots, root.2.1.isInsert = false) :
    ¬Inserts asked (document.compile custom) := by
  rintro ⟨root, node, found, inserts⟩
  have member := mem_of_findMutation found
  rw [Document.compiled_roots clear] at member
  obtain ⟨field, inside, same⟩ := List.mem_map.mp member
  cases same
  rw [field.2.1.mutationType_node custom
    ((unmarked.plain_root clear inside).unmarked (by decide))] at inserts
  have plain := others field inside
  rw [FieldHead.isInsert] at plain
  rw [isInsertType, plain] at inserts
  cases inserts

end Client

namespace Deletion

def data : OrderedMap String Json := [("deleteCountry", .object [("id", .int 1)])]

def delivery : Delivery :=
  .answered 200 (Json.print Json.bodyStyle (.object [("data", .object data)]))

end Deletion

open Deletion in
/-- After a deletion nothing can be read of a store that held a country. -/
theorem Client.deletion_forgets :
    ∃ opening returned,
      (Client.standard.begin call Countries.store 0).result = .ok opening ∧
        (Client.standard.finish opening delivery (Client.standard.begin call Countries.store 0).store
          1).result = .ok returned ∧
        (Client.standard.finish opening delivery (Client.standard.begin call Countries.store 0).store
          1).store.Blank := by
  have options : Client.standard.settings.withOptions Client.standard.homes call.options =
    .ok .standard := rfl
  have route : (document.compile none).route = .mutation := by decide
  have clear : (document.compile none).obstacle = none := by decide
  have single : ∀ root ∈ document.roots, root.2.1.isInsert = false := by
    have roots : document.roots = [("deleteCountry", field)] := rfl
    have other : field.1.isInsert = false := by decide +kernel
    simp [roots, other]
  have ready : Countries.store.Open := Store.open_memory _
  obtain ⟨notices, opening, begun, opens⟩ := begin_opens options reads unmarked ready 0
  have plan : PlanFor .standard call .clear opening.plan := effect ▸ opens.plan
  have delivered : delivery.answer opening.request.endpoint = .ok [("data", .object data)] := by
    rw [opens.endpoint]
    exact except_ok_of_toOption (by decide +kernel)
  obtain ⟨returned, finished, _⟩ := finish_leaves plan ready
    (fun prototype fromMutation files => by cases files) delivered
    (show dataFields (dataOf [("data", .object data)]) = .ok data from rfl) 1
  have emptied : (Client.standard.begin call Countries.store 0).store =
      Effect.clear.sending Countries.store := by
    rw [begun, show Settings.standard.cache.custom = none from rfl, effect]
  have opened : (Client.standard.begin call Countries.store 0).result = .ok opening := by rw [begun]
  rw [← emptied] at finished
  exact ⟨opening, returned, opened, finished,
    (mutation_forgets_iff options reads route).mpr (not_inserts unmarked clear single) _ _ _ _ _ _
      opened finished⟩

/-! ## An insert before a deletion -/

namespace Mixed

def call : Call :=
  ⟨"https://api.example.test/graphql",
    "mutation \x7b addBook(name: \"x\") \x7b id \x7d deleteCountry(id: 1) \x7b id \x7d \x7d",
    [("addBook", .string "Book")], [], [], []⟩

def document : Document :=
  ⟨[.operation ⟨.mutation, none, [], [],
    [.relation ⟨none, "addBook", [⟨"name", .string "x"⟩], []⟩ [.leaf ⟨none, "id", [], []⟩],
     .relation ⟨none, "deleteCountry", [⟨"id", .int "1"⟩], []⟩ [.leaf ⟨none, "id", [], []⟩]]⟩]⟩

def record : Record Int :=
  ⟨"country--1", "country", "1", [("id", .int 1), ("name", .string "Peru")], false, some 100⟩

def store : Store Int :=
  .memory ⟨[("country--1", record)],
    [(.text "country--1", ⟨.text "country--1", .text "country", ["country--1"], false, some 100⟩)]⟩

def data : OrderedMap String Json :=
  [("addBook", .object [("id", .int 5)]), ("deleteCountry", .object [("id", .int 1)])]

def delivery : Delivery :=
  .answered 200 (Json.print Json.bodyStyle (.object [("data", .object data)]))

set_option maxRecDepth 8000 in
theorem reads : readQuery call.query = .ok document := by cbv

theorem unmarked : document.Unmarked := by
  simp [Document.Unmarked, Document.heads, document, Definition.selections, Selection.headsOf,
    Selection.heads]

def book : FieldHead × List Selection :=
  (⟨none, "addBook", [⟨"name", .string "x"⟩], []⟩, [.leaf ⟨none, "id", [], []⟩])

def deletion : FieldHead × List Selection :=
  (⟨none, "deleteCountry", [⟨"id", .int "1"⟩], []⟩, [.leaf ⟨none, "id", [], []⟩])

theorem roots : document.roots = [("addBook", book), ("deleteCountry", deletion)] := rfl

theorem effect : document.effect none (mappedNames call.mutationMap) =
    .file (document.compile none).prototype true := by
  have lowered : Text.lowercase "addBook" = "addbook" := by decide +kernel
  have named : document.mutationRoot? (mappedNames call.mutationMap) = some book := by
    simp [Document.mutationRoot?, roots, mappedNames, call, lowered]
  have route : (document.compile none).route = .mutation := by decide
  have insert : book.1.isInsert = true := by decide +kernel
  simp [Document.effect, route, named, insert]

end Mixed

open Mixed in
/-- The country is still found after a mutation of which one root deletes. -/
theorem Client.mixed_mutation_remembers :
    readQuery call.query = .ok document ∧ (document.compile none).route = .mutation ∧
      (∃ root ∈ document.roots, root.2.1.isInsert = false) ∧
      store.lookup 0 "country--1" = .ok [record] ∧
      ∃ opening returned, (Client.standard.begin call store 0).result = .ok opening ∧
        (Client.standard.finish opening delivery (Client.standard.begin call store 0).store
          1).result = .ok returned ∧
        (Client.standard.finish opening delivery (Client.standard.begin call store 0).store
          1).store.lookup 1 "country--1" = .ok [record] := by
  have ready : store.Open := Store.open_memory _
  have options : Client.standard.settings.withOptions Client.standard.homes call.options =
    .ok .standard := rfl
  have clear : (document.compile none).obstacle = none := by decide
  have spared : deletion.1.isInsert = false := by decide +kernel
  obtain ⟨notices, opening, begun, opens⟩ := begin_opens options reads unmarked ready 0
  have plan : PlanFor .standard call (.file (document.compile none).prototype true) opening.plan :=
    effect ▸ opens.plan
  have kept : (document.effect Settings.standard.cache.custom
      (mappedNames call.mutationMap)).sending store = store := by
    rw [show Settings.standard.cache.custom = none from rfl, effect]
    rfl
  have delivered : delivery.answer opening.request.endpoint = .ok [("data", .object data)] := by
    rw [opens.endpoint]
    exact except_ok_of_toOption (by decide +kernel)
  have filed : (store.deposit Client.standard.filing 1 (deposit .standard call
      (document.compile none).prototype true (.object data))).toOption.map
        (fun filed => (filed.1.lookup 1 "country--1").toOption) = some (some [record]) := by
    decide +kernel
  obtain ⟨returned, finished, batch, stored⟩ := finish_leaves plan ready
    (fun prototype fromMutation files => by cases files; exact unmarked.ready clear) delivered
    (show dataFields (dataOf [("data", .object data)]) = .ok data from rfl) 1
  rw [begun, kept]
  refine ⟨reads, by decide, ⟨("deleteCountry", deletion), by simp [roots], spared⟩,
    except_ok_of_toOption (by decide +kernel), opening, returned, rfl, finished, ?_⟩
  rw [show dataOf [("data", .object data)] = .object data from rfl] at stored
  rw [stored] at filed
  exact except_ok_of_toOption (Option.some.inj filed)

end GraphCache
