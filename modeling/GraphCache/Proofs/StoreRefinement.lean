import GraphCache.Proofs.FaithfulAnswer
import GraphCache.Proofs.Inlining

/-! A store in tables and a store in memory, run side by side. They start empty and go
through the same events at the same times. As long as everything is indexed under texts,
they always hold the same contents and indices, so no lookup and no call can tell them
apart. A table has no place for any other label: what it files under the text of such a
label, memory files elsewhere. -/
namespace GraphCache

/-- A label that is a text. -/
def Label.IsText (label : Label) : Prop := ∃ name, label = .text name

/-- Stores of the two kinds that show the same under every text. -/
structure Agree {τ : Type} (memory tables : Store τ) : Prop where
  left : ∃ state, memory = .memory state
  right : ∃ state, tables = .tables (some state)
  contents : ∀ key, memory.content? key = tables.content? key
  indices : ∀ name, memory.index? (.text name) = tables.index? (.text name)

theorem Agree.empty {τ : Type} :
    Agree (.memory .empty : Store τ) (.tables (some .empty)) where
  left := ⟨_, rfl⟩
  right := ⟨_, rfl⟩
  contents := fun _ => rfl
  indices := fun _ => rfl

variable {τ : Type} [Instant τ]

/-- What is shown of records that were looked up. -/
def shown (records : List (Record τ)) : List (Content τ) := records.map Record.content

/-! ## Reading -/

namespace Agree

variable {memory tables : Store τ}

/-- Both stores answer a text with the same contents. -/
theorem recall_eq (agree : Agree memory tables) (now : τ) {label : Label} (text : label.IsText) :
    ∃ left right, memory.recall now label = .ok left ∧ tables.recall now label = .ok right ∧
      shown left = shown right := by
  obtain ⟨name, rfl⟩ := text
  obtain ⟨first, rfl⟩ := agree.left
  obtain ⟨second, rfl⟩ := agree.right
  have hashable : (Label.text name).hashable = .ok (.text name) := rfl
  have one : (Store.memory first).recall now (.text name) = .ok (first.lookup now (.text name)) := rfl
  have two : (Store.tables (some second)).recall now (.text name) = .ok (second.lookup now name) := rfl
  refine ⟨_, _, one, two, ?_⟩
  rw [shown, shown, Store.recall_shows hashable one, Store.recall_shows hashable two, agree.indices,
    funext agree.contents]

theorem lookup_eq (agree : Agree memory tables) (now : τ) (key : String) :
    (memory.lookup now key).map shown = (tables.lookup now key).map shown := by
  obtain ⟨left, right, one, two, same⟩ := agree.recall_eq now (⟨key, rfl⟩ : (Label.text key).IsText)
  simp only [Store.recall, except_mapError_ok] at one two
  rw [one, two, Except.map, Except.map, same]

end Agree

/-! ## Writing -/

/-- A batch that is filed under its own keys and indexed under some of the labels. -/
structure Batch.Within (batch : Batch τ) (labels : Label → Prop) : Prop where
  keyed : batch.Keyed
  indexed : ∀ entry ∈ batch.queries, labels entry.key

/-- Roots that are looked up and indexed under some of the labels. -/
def Prototype.Within (prototype : Prototype) (custom : Option String) (labels : Label → Prop) :
    Prop :=
  ∀ root ∈ prototype, ∀ key, root.2.queryKey custom = .ok key → labels key

/-- A deposit whose roots are indexed under some of the labels. -/
def Deposit.Within (deposit : Deposit τ) (settings : StoreSettings τ) (labels : Label → Prop) :
    Prop :=
  deposit.prototype.Within (givenName? deposit.custom <|> settings.custom) labels

omit [Instant τ] in
private theorem find?_text (store : Store τ) {entries : List (IndexEntry τ)}
    (texts : ∀ entry ∈ entries, entry.key.IsText) (name : String) :
    entries.find? (fun entry =>
        decide (store.filedAs entry.key = store.filedAs (.text name))) =
      entries.find? fun entry => decide (entry.key = .text name) := by
  induction entries with
  | nil => rfl
  | cons entry rest ih =>
    obtain ⟨⟨text, named⟩, others⟩ := List.forall_mem_cons.mp texts
    have same : decide (store.filedAs entry.key = store.filedAs (.text name)) =
        decide (entry.key = .text name) := by
      rw [named]
      cases store <;> simp [Store.filedAs, Label.toText]
    rw [List.find?_cons, List.find?_cons, same, ih others]

omit [Instant τ] in
/-- Both stores file the same entry under a text. -/
theorem entryFor?_eq (memory tables : Store τ) {queries : List (IndexEntry τ)}
    (texts : ∀ entry ∈ queries, entry.key.IsText) (name : String) :
    memory.entryFor? queries (.text name) = tables.entryFor? queries (.text name) := by
  have reversed : ∀ entry ∈ queries.reverse, entry.key.IsText := fun entry member =>
    texts entry (List.mem_reverse.mp member)
  rw [Store.entryFor?, Store.entryFor?, find?_text memory reversed, find?_text tables reversed]

omit [Instant τ] in
/-- A root whose type is a text is indexed under a text. -/
theorem Node.queryKey_isText {node : Node} (typed : node.typeLabel.IsText) {custom : Option String}
    {key : Label} (named : node.queryKey custom = .ok key) : key.IsText := by
  obtain ⟨name, typed⟩ := typed
  simp only [queryKey, bind, except_bind_ok, pure, Except.pure] at named
  obtain ⟨filters, _, own, keyed, rest⟩ := named
  have text : own.IsText := by
    simp only [cacheKey, typed] at keyed
    split at keyed <;> cases keyed <;> exact ⟨_, rfl⟩
  obtain ⟨text, rfl⟩ := text
  split at rest <;> cases rest <;> exact ⟨_, rfl⟩

omit [Instant τ] in
/-- What is filed is indexed under the labels of the roots. -/
theorem Filing.batchOf_within {filing : Filing τ} {prototype : Prototype} {data : Json}
    {batch : Batch τ} {labels : Label → Prop} (within : prototype.Within filing.custom labels)
    (filed : filing.batchOf prototype data = .ok batch) : batch.Within labels := by
  obtain ⟨fields, _, _, holds, all⟩ := exists_batchOf_filed filed
  refine ⟨holds.keyed, fun entry member => ?_⟩
  obtain ⟨root, carried, indexed⟩ := exists_related all member
  exact within _ (Prototype.mem_of_carried carried) _ indexed.key

/-- Results that are the same error, or successes that are related. -/
inductive Alike {ε α β : Type} (related : α → β → Prop) : Except ε α → Except ε β → Prop where
  | error (cause : ε) : Alike related (.error cause) (.error cause)
  | ok {left : α} {right : β} (same : related left right) : Alike related (.ok left) (.ok right)

section Exact
variable [LinearOrder τ] [Add τ] [Instant.Exact τ] {memory tables : Store τ}

/-- Writing a batch under texts succeeds in both stores and keeps them in agreement. -/
theorem Agree.write (agree : Agree memory tables) (now : τ) {batch : Batch τ}
    (texts : batch.Within Label.IsText) :
    ∃ left right, memory.write now batch = .ok left ∧ tables.write now batch = .ok right ∧
      Agree left right := by
  obtain ⟨first, rfl⟩ := agree.left
  obtain ⟨second, rfl⟩ := agree.right
  have one : (Store.memory first).write now batch = .ok (.memory (first.write now batch)) := rfl
  have two : (Store.tables (some second)).write now batch =
      .ok (.tables (some (second.write now batch))) := rfl
  refine ⟨_, _, one, two, ⟨_, rfl⟩, ⟨_, rfl⟩, fun key => ?_, fun name => ?_⟩
  · rw [Store.content?_write texts.keyed one, Store.content?_write texts.keyed two, agree.contents]
  · rw [Store.index?_write one, Store.index?_write two, agree.indices,
      entryFor?_eq (.memory first) (.tables (some second)) texts.indexed]

/-- Both stores file an answer as the same batch, or refuse it for the same reason. -/
theorem Agree.deposit (agree : Agree memory tables) (settings : StoreSettings τ) (now : τ)
    {deposit : Deposit τ} (within : deposit.Within settings Label.IsText) :
    Alike (fun left right => Agree left.1 right.1 ∧ left.2 = right.2)
      (memory.deposit settings now deposit) (tables.deposit settings now deposit) := by
  simp only [Store.deposit, bind, Except.bind]
  cases made : (deposit.filing settings now).batchOf deposit.prototype deposit.data with
  | error fault => exact .error _
  | ok batch =>
    have texts : deposit.prototype.Within (deposit.filing settings now).custom Label.IsText := within
    obtain ⟨left, right, first, second, after⟩ := agree.write now (Filing.batchOf_within texts made)
    by_cases empty : batch.size = 0
    · simp only [Except.mapError, empty, ↓reduceIte]
      exact .ok ⟨agree, rfl⟩
    · simp only [Except.mapError, empty, ↓reduceIte, first, second]
      exact .ok ⟨after, rfl⟩

end Exact

/-! ## Documents that keep their types -/

/-- The roots of a document that a call looks up or files. -/
def Compilation.handled (compiled : Compilation) : Prototype :=
  match compiled.route with
  | .query => Prototype.expand compiled.prototype compiled.fragments
  | .mutation => compiled.prototype
  | .pass _ => []

/-- A document in which nothing takes the place of the type mark of a root: neither a relation
of the root itself nor a field of a fragment, which may be inlined there. -/
structure Document.KeepsTypes (document : Document) : Prop where
  roots : ∀ root field, Selection.last? document.rootSelections root = some field →
    Selection.last? field.2 Mark.typeName = none
  fragments : ∀ shared ∈ document.fragments,
    Mark.typeName ∉ Selection.responseKeys shared.selections

namespace Document

variable {document : Document} {custom : Option String}

/-- The roots of such a document have texts for types. -/
theorem KeepsTypes.compiled (keeps : document.KeepsTypes)
    (clear : (document.compile custom).obstacle = none) :
    ∀ root ∈ (document.compile custom).prototype, root.2.typeLabel.IsText := by
  intro root member
  obtain ⟨field, last, same⟩ := root_of_mem clear member
  rw [same, field.1.typeLabel_node custom (keeps.roots root.1 field last)]
  exact ⟨_, rfl⟩

/-- They keep them when fragments are inlined. -/
theorem KeepsTypes.expanded (keeps : document.KeepsTypes)
    (clear : (document.compile custom).obstacle = none) :
    ∀ root ∈ document.expanded custom, root.2.typeLabel.IsText := by
  intro root member
  obtain ⟨written, inside, rfl⟩ := List.mem_map.mp member
  have absent : ∀ name fragment,
      OrderedMap.get? (document.compile custom).fragments name = some fragment →
      OrderedMap.get? fragment Mark.typeName = none := by
    intro name fragment found
    obtain ⟨shared, defined, rfl⟩ := fragment_of_compiled clear found
    exact Fragment.get?_node_absent (keeps.fragments shared defined)
  have reserved : isReserved Mark.typeName = true := by decide
  have same := Node.get?_expand reserved absent
    (document.compile custom).fragments.length [] written.2
  have typed := keeps.compiled clear written inside
  simp only [Node.typeLabel, Node.typeName, Node.mark, same] at typed ⊢
  exact typed

/-- Such a document is looked up and indexed under texts. -/
theorem KeepsTypes.handled (keeps : document.KeepsTypes) (name : Option String) :
    (document.compile custom).handled.Within name Label.IsText := by
  intro root member key named
  rw [Compilation.handled] at member
  split at member
  · rename_i route
    exact Node.queryKey_isText (keeps.expanded (clear_of_route (by simp [route])) root member) named
  · rename_i route
    exact Node.queryKey_isText (keeps.compiled (clear_of_route (by simp [route])) root member) named
  · cases member

end Document

/-! ## Calls -/

/-- What is shown of the records of each root. -/
def shownRoots (cached : OrderedMap String (List (Record τ))) :
    OrderedMap String (List (Content τ)) :=
  cached.map fun entry => (entry.1, shown entry.2)

/-- Looking up the roots of a document finds the same in both stores. -/
theorem Agree.lookupRoots {memory tables : Store τ} (agree : Agree memory tables) (now : τ)
    {custom : Option String} {prototype : Prototype}
    (within : prototype.Within custom Label.IsText) :
    Alike (fun left right => shownRoots left = shownRoots right)
      (Client.lookupRoots memory now custom prototype)
      (Client.lookupRoots tables now custom prototype) := by
  induction prototype with
  | nil => exact .ok rfl
  | cons root rest ih =>
    obtain ⟨own, others⟩ := List.forall_mem_cons.mp within
    simp only [Client.lookupRoots, bind, Except.bind]
    cases named : root.2.queryKey custom with
    | error fault => exact .error _
    | ok key =>
      obtain ⟨left, right, first, second, same⟩ :=
        agree.recall_eq now (own key named)
      simp only [first, second, Except.mapError]
      have empty : left.isEmpty = right.isEmpty := by
        simpa [shown] using congrArg List.isEmpty same
      generalize Client.lookupRoots memory now custom rest = one at ih
      generalize Client.lookupRoots tables now custom rest = two at ih
      cases ih others with
      | error cause => exact .error cause
      | ok later =>
        refine .ok ?_
        rw [empty]
        split
        · exact later
        · simpa [shownRoots, same] using later

/-- Plans that treat an answer alike, and file it under texts. -/
inductive Plan.Alike (filing : StoreSettings τ) : Plan τ → Plan τ → Prop where
  | pass : Plan.Alike filing .pass .pass
  | wrap : Plan.Alike filing .wrap .wrap
  | insert (deposit : Json → Deposit τ) (mutation : Json)
      (within : ∀ data, (deposit data).Within filing Label.IsText) :
      Plan.Alike filing (.insert deposit mutation) (.insert deposit mutation)
  | query (deposit : Json → Deposit τ) (prototype : Prototype) (custom : Option String)
      {left right : OrderedMap String (List (Record τ))}
      (within : ∀ data, (deposit data).Within filing Label.IsText)
      (same : shownRoots left = shownRoots right) :
      Plan.Alike filing (.query deposit prototype custom left)
        (.query deposit prototype custom right)

/-- Outcomes that leave stores in agreement, and give alike results. -/
structure Outcome.Alike {α β : Type} (related : α → β → Prop) (left : Outcome τ α)
    (right : Outcome τ β) : Prop where
  store : Agree left.store right.store
  result : GraphCache.Alike related left.result right.result

omit [Instant τ] in
private theorem shown_get? {left right : OrderedMap String (List (Record τ))}
    (same : shownRoots left = shownRoots right) (root : String) :
    shown ((OrderedMap.get? left root).getD []) = shown ((OrderedMap.get? right root).getD []) := by
  have each (cached : OrderedMap String (List (Record τ))) :
      shown ((OrderedMap.get? cached root).getD []) =
        (OrderedMap.get? (shownRoots cached) root).getD [] := by
    rw [shownRoots, OrderedMap.get?_map cached fun _ => shown]
    cases OrderedMap.get? cached root <;> rfl
  rw [each, each, same]

omit [Instant τ] in
private theorem cachedRoot_eq {left right : List (Record τ)} (same : shown left = shown right)
    (node : Node) : cachedRoot node left = cachedRoot node right := by
  have each (records : List (Record τ)) : cachedRoot node records =
      match shown records with
      | [] => none
      | first :: rest =>
        if node.identifier.isNull then
          some (.array ((first :: rest).map fun content => .object content.data))
        else some (.object first.data) := by
    cases records with
    | nil => rfl
    | cons first rest => simp [cachedRoot, shown, Record.content, Function.comp_def]
  rw [each, each, same]

omit [Instant τ] in
/-- Completing an answer uses no more of the records than what is shown. -/
theorem complete_eq {prototype : Prototype} {custom : Option String}
    {left right : OrderedMap String (List (Record τ))} (same : shownRoots left = shownRoots right)
    (answer : Answer) :
    Client.complete prototype custom left answer = Client.complete prototype custom right answer := by
  have empty : left.isEmpty = right.isEmpty := by
    simpa [shownRoots] using congrArg List.isEmpty same
  have roots (node : Node) (root : String) :
      cachedRoot node ((OrderedMap.get? left root).getD []) =
        cachedRoot node ((OrderedMap.get? right root).getD []) :=
    cachedRoot_eq (shown_get? same root) node
  simp only [Client.complete, empty, Prototype.merge, roots]

/-- The client with its store in another place. -/
def Client.at (client : Client τ) (place : StorePlace) : Client τ := { client with place := place }

/-- Openings that send the same and treat the answer alike. -/
structure Opening.Alike (filing : StoreSettings τ) (left right : Opening τ) : Prop where
  request : left.request = right.request
  plan : Plan.Alike filing left.plan right.plan

/-- A call whose roots are looked up and indexed under some of the labels. -/
def Call.Within (call : Call) (client : Client τ) (labels : Label → Prop) : Prop :=
  ∀ settings document, client.settings.withOptions client.homes call.options = .ok settings →
    readQuery call.query = .ok document →
    (document.compile settings.cache.custom).handled.Within (client.lookupName settings) labels

namespace Agree

variable {memory tables : Store τ} (agree : Agree memory tables) (client : Client τ)
  (place : StorePlace) (call : Call) (now : τ)
include agree

omit [Instant τ] in
/-- Clearing empties both stores. -/
private theorem openCleared (notices others : List Notice) (request : Request) :
    Outcome.Alike (Opening.Alike client.filing) (client.openCleared notices ⟨request, .wrap⟩ memory)
      ((client.at place).openCleared others ⟨request, .wrap⟩ tables) := by
  obtain ⟨first, rfl⟩ := agree.left
  obtain ⟨second, rfl⟩ := agree.right
  exact ⟨.empty, .ok ⟨rfl, .wrap⟩⟩

private theorem openQuery (settings : Settings) {document : Document}
    (within : (document.expanded settings.cache.custom).Within (client.lookupName settings)
      Label.IsText) :
    Outcome.Alike (Opening.Alike client.filing)
      (client.openQuery settings call (document.compile settings.cache.custom) memory now)
      ((client.at place).openQuery settings call (document.compile settings.cache.custom) tables
        now) := by
  have looked := agree.lookupRoots now within
  have name : (client.at place).lookupName settings = client.lookupName settings := rfl
  rw [Client.openQuery, Client.openQuery, ← Document.expanded, name]
  generalize Client.lookupRoots memory now (client.lookupName settings)
    (document.expanded settings.cache.custom) = left at looked ⊢
  generalize Client.lookupRoots tables now (client.lookupName settings)
    (document.expanded settings.cache.custom) = right at looked ⊢
  cases looked with
  | error cause => exact ⟨agree, .error cause⟩
  | ok same => exact ⟨agree, .ok ⟨rfl, .query _ _ _ (fun _ => within) same⟩⟩

private theorem openMutation (settings : Settings) {compiled : Compilation}
    (within : compiled.prototype.Within (client.lookupName settings) Label.IsText) :
    Outcome.Alike (Opening.Alike client.filing) (client.openMutation settings call compiled memory)
      ((client.at place).openMutation settings call compiled tables) := by
  simp only [Client.openMutation]
  cases findMutation (mappedNames call.mutationMap) compiled.prototype with
  | error cause => exact ⟨agree, .error _⟩
  | ok found =>
    cases found with
    | none => exact agree.openCleared client place _ _ _
    | some entry =>
      obtain ⟨root, node⟩ := entry
      simp only
      split
      · exact ⟨agree, .ok ⟨rfl, .insert _ _ fun _ => within⟩⟩
      · exact agree.openCleared client place _ _ _

/-- The first step of a call does the same with both stores. -/
theorem begin (within : call.Within client Label.IsText) :
    Outcome.Alike (Opening.Alike client.filing) (client.begin call memory now)
      ((client.at place).begin call tables now) := by
  have settled : (client.at place).settings.withOptions (client.at place).homes call.options =
      client.settings.withOptions client.homes call.options := rfl
  rw [Client.begin, Client.begin, settled]
  cases options : client.settings.withOptions client.homes call.options with
  | error issues => exact ⟨agree, .error _⟩
  | ok settings =>
    cases reads : readQuery call.query with
    | error cause => exact ⟨agree, .error _⟩
    | ok document =>
      have handled := within settings document options reads
      simp only
      cases route : (document.compile settings.cache.custom).route with
      | pass reason => exact ⟨agree, .ok ⟨rfl, .pass⟩⟩
      | query =>
        rw [Compilation.handled, route] at handled
        exact agree.openQuery client place call now settings handled
      | mutation =>
        rw [Compilation.handled, route] at handled
        exact agree.openMutation client place call settings handled

section Exact
variable [LinearOrder τ] [Add τ] [Instant.Exact τ]

private theorem file {deposit : Json → Deposit τ}
    (within : ∀ data, (deposit data).Within client.filing Label.IsText)
    (answer : Answer) :
    Outcome.Alike Eq (client.file deposit answer memory now)
      ((client.at place).file deposit answer tables now) := by
  have filed := agree.deposit client.filing now (within (Client.dataOf answer))
  simp only [Client.file, Client.at]
  generalize memory.deposit client.filing now (deposit (Client.dataOf answer)) = left at filed ⊢
  generalize tables.deposit client.filing now (deposit (Client.dataOf answer)) = right at filed ⊢
  cases filed with
  | error cause => exact ⟨agree, .error _⟩
  | ok same => exact ⟨same.1, .ok same.2⟩

private theorem carryOut {left right : Plan τ} (alike : Plan.Alike client.filing left right)
    (answer : Answer) :
    Outcome.Alike Eq (client.carryOut left answer memory now)
      ((client.at place).carryOut right answer tables now) := by
  cases alike with
  | pass => exact ⟨agree, .ok rfl⟩
  | wrap => exact ⟨agree, .ok rfl⟩
  | insert deposit mutation within =>
    have filed := agree.file client place now within answer
    simp only [Client.carryOut]
    generalize client.file deposit answer memory now = one at filed ⊢
    generalize (client.at place).file deposit answer tables now = two at filed ⊢
    obtain ⟨oneNotices, oneStore, oneResult⟩ := one
    obtain ⟨twoNotices, twoStore, twoResult⟩ := two
    obtain ⟨after, result⟩ := filed
    cases result with
    | error cause => exact ⟨after, .error cause⟩
    | ok => exact ⟨after, .ok rfl⟩
  | query deposit prototype custom within same =>
    have filed := agree.file client place now within answer
    simp only [Client.carryOut]
    generalize client.file deposit answer memory now = one at filed ⊢
    generalize (client.at place).file deposit answer tables now = two at filed ⊢
    obtain ⟨oneNotices, oneStore, oneResult⟩ := one
    obtain ⟨twoNotices, twoStore, twoResult⟩ := two
    obtain ⟨after, result⟩ := filed
    cases result with
    | error cause => exact ⟨after, .error cause⟩
    | ok =>
      refine ⟨after, ?_⟩
      simp only [complete_eq same]
      generalize (Client.complete prototype custom _ answer).mapError CallError.malformed = completed
      cases completed with
      | error cause => exact .error cause
      | ok returned => exact .ok rfl

/-- The second step of a call does the same with both stores. -/
theorem finish {left right : Opening τ} (alike : Opening.Alike client.filing left right)
    (delivery : Delivery) :
    Outcome.Alike Eq (client.finish left delivery memory now)
      ((client.at place).finish right delivery tables now) := by
  obtain ⟨request, plan⟩ := alike
  simp only [Client.finish, ← request]
  cases delivery.answer left.request.endpoint with
  | error cause => exact ⟨agree, .error _⟩
  | ok answer =>
    have carried := agree.carryOut client place now plan answer
    exact ⟨carried.store, carried.result⟩

end Exact

end Agree

/-! ## Runs -/

/-- What can happen to a store: a batch is written, an answer is filed, everything is dropped,
the clock is set forwards or backwards, or a call is made, whose answer arrives when the
clock shows another time. -/
inductive StoreEvent (τ : Type) where
  | write (batch : Batch τ)
  | file (deposit : Deposit τ)
  | clear
  | clock (now : τ)
  | call (call : Call) (delivery : Delivery) (arrival : τ)

/-- What is seen of an event. -/
inductive Seen where
  | change (result : Except Failure Unit)
  | counts (result : Except StoreError (Nat × Nat))
  | time
  | answer (request : Option Request) (result : Except CallError Answer)

/-- A store and the time that its clock shows. -/
structure World (τ : Type) where
  store : Store τ
  now : τ

/-- Worlds that show the same time, with stores that agree. -/
structure World.Alike (left right : World τ) : Prop where
  store : Agree left.store right.store
  time : left.now = right.now

namespace Client

/-- What is seen of an event, and the world after it. -/
def step (client : Client τ) (world : World τ) : StoreEvent τ → Seen × World τ
  | .write batch =>
    match world.store.write world.now batch with
    | .error cause => (.change (.error cause), world)
    | .ok after => (.change (.ok ()), { world with store := after })
  | .file deposit =>
    match world.store.deposit client.filing world.now deposit with
    | .error cause => (.counts (.error cause), world)
    | .ok (after, batch) =>
      (.counts (.ok (batch.entities.length, batch.queries.length)), { world with store := after })
  | .clear =>
    match world.store.clear with
    | .error cause => (.change (.error cause), world)
    | .ok after => (.change (.ok ()), { world with store := after })
  | .clock now => (.time, { world with now := now })
  | .call call delivery arrival =>
    match client.begin call world.store world.now with
    | ⟨_, store, .error cause⟩ => (.answer none (.error cause), { world with store := store })
    | ⟨_, store, .ok opening⟩ =>
      let outcome := client.finish opening (delivery.through opening.request) store arrival
      (.answer (some opening.request) outcome.result, ⟨outcome.store, arrival⟩)

/-- What is seen of a sequence of events, and the world after it. -/
def steps (client : Client τ) : World τ → List (StoreEvent τ) → List Seen × World τ
  | world, [] => ([], world)
  | world, event :: rest =>
    let (seen, next) := client.step world event
    let (later, last) := client.steps next rest
    (seen :: later, last)

/-- A call whose first step goes on is seen by its request and by what its second step gives. -/
theorem step_of_begun {client : Client τ} {asked : Call} {world : World τ} {opening : Opening τ}
    (begun : (client.begin asked world.store world.now).result = .ok opening)
    (delivery : Delivery) (arrival : τ) :
    client.step world (.call asked delivery arrival) =
      let outcome := client.finish opening (delivery.through opening.request)
        (client.begin asked world.store world.now).store arrival
      (.answer (some opening.request) outcome.result, ⟨outcome.store, arrival⟩) := by
  rw [step]
  split
  · rename_i ended
    rw [ended] at begun
    cases begun
  · rename_i began
    rw [began] at begun ⊢
    cases begun
    rfl

/-- One whose first step fails ends there. -/
theorem step_of_failed {client : Client τ} {asked : Call} {world : World τ} {cause : CallError}
    (failed : (client.begin asked world.store world.now).result = .error cause)
    (delivery : Delivery) (arrival : τ) :
    client.step world (.call asked delivery arrival) = (.answer none (.error cause),
      { world with store := (client.begin asked world.store world.now).store }) := by
  rw [step]
  split
  · rename_i ended
    rw [ended] at failed ⊢
    cases failed
    rfl
  · rename_i began
    rw [began] at failed
    cases failed

/-- The store after a call that goes through the cache. -/
theorem step_call {client : Client τ} {asked : Call} {settings : Settings} {document : Document}
    (queries : client.Queries asked settings document) (world : World τ)
    {cached : OrderedMap String (List (Record τ))}
    (looked : lookupRoots world.store world.now (client.lookupName settings)
      (document.expanded settings.cache.custom) = .ok cached) (delivery : Delivery) (arrival : τ) :
    (client.step world (.call asked delivery arrival)).2.store =
      (client.finish ⟨request settings asked "POST", queryPlan settings asked document cached⟩
        (delivery.through (request settings asked "POST")) world.store arrival).store := by
  rw [step_of_begun ((begin_ok_iff queries).mpr ⟨cached, looked, rfl⟩), begin_store queries]

end Client

/-- An event that looks up and indexes under some of the labels only. -/
def StoreEvent.Within (client : Client τ) (labels : Label → Prop) : StoreEvent τ → Prop
  | .write batch => batch.Within labels
  | .file deposit => deposit.Within client.filing labels
  | .clear => True
  | .clock _ => True
  | .call asked _ _ => asked.Within client labels

omit [Instant τ] in
theorem StoreEvent.Within.mono {client : Client τ} {labels wider : Label → Prop}
    (included : ∀ label, labels label → wider label) {event : StoreEvent τ}
    (within : event.Within client labels) : event.Within client wider := by
  cases event with
  | write batch => exact ⟨within.keyed, fun entry member => included _ (within.indexed entry member)⟩
  | file deposit => exact fun root member key named => included _ (within root member key named)
  | clear => trivial
  | clock now => trivial
  | call asked delivery arrival =>
    exact fun settings document options reads root member key named =>
      included _ (within settings document options reads root member key named)

/-- Runs over a store in memory and over one in tables, both empty at the start, that cannot be
told apart: of every event the same is seen, and afterwards every lookup at every time finds
the same. -/
structure Client.Indistinct (client : Client τ) (place : StorePlace) (start : τ)
    (events : List (StoreEvent τ)) : Prop where
  seen : (client.steps ⟨.memory .empty, start⟩ events).1 =
    ((client.at place).steps ⟨.tables (some .empty), start⟩ events).1
  time : (client.steps ⟨.memory .empty, start⟩ events).2.now =
    ((client.at place).steps ⟨.tables (some .empty), start⟩ events).2.now
  lookups : ∀ now key,
    ((client.steps ⟨.memory .empty, start⟩ events).2.store.lookup now key).map shown =
      (((client.at place).steps ⟨.tables (some .empty), start⟩ events).2.store.lookup now key).map
        shown

/-- A batch of one record, which is indexed under a label. -/
def Batch.marked (label : Label) : Batch τ where
  entities := [("a--1", ⟨"a--1", "a", "1", [("id", .int 1)], false, none⟩)]
  queries := [⟨label, .text "a", ["a--1"], false, none⟩]

/-- What is indexed under another label is found under its text in tables only. -/
theorem Client.not_indistinct_marked (client : Client τ) (place : StorePlace) (start : τ)
    {label : Label} (other : ¬ label.IsText) :
    ¬ client.Indistinct place start [.write (.marked label)] := by
  intro same
  have absent : label ≠ .text label.toText := fun named => other ⟨_, named⟩
  have memory : (Memory.empty.write start (.marked label)).lookup start (.text label.toText) = [] := by
    simp [Memory.lookup, Memory.write, Memory.empty, Batch.marked, OrderedMap.insert,
      OrderedMap.get?, absent]
  have tables : (Table.empty.write start (.marked label)).lookup start label.toText =
      [⟨"a--1", "a", "1", [("id", .int 1)], false, none⟩] := by
    simp [Table.lookup, Table.write, Table.writeRow, Table.empty, Table.toRecord, Batch.marked,
      OrderedMap.insert, OrderedMap.get?, hasExpired]
  have found := same.lookups start label.toText
  simp [Client.steps, Client.step, Store.write, Store.lookup, memory, tables, Except.map,
    shown] at found

section Exact
variable [LinearOrder τ] [Add τ] [Instant.Exact τ]

/-- Of a call the same is seen in worlds that are alike, and they stay so. -/
private theorem World.Alike.call {left right : World τ} (alike : World.Alike left right)
    (client : Client τ) (place : StorePlace) {asked : Call}
    (within : asked.Within client Label.IsText) (delivery : Delivery) (arrival : τ) :
    (client.step left (.call asked delivery arrival)).1 =
        ((client.at place).step right (.call asked delivery arrival)).1 ∧
      World.Alike (client.step left (.call asked delivery arrival)).2
        ((client.at place).step right (.call asked delivery arrival)).2 := by
  obtain ⟨agree, time⟩ := alike
  have begun := agree.begin client place asked left.now within
  simp only [Client.step, ← time]
  generalize client.begin asked left.store left.now = one at begun ⊢
  generalize (client.at place).begin asked right.store left.now = two at begun ⊢
  obtain ⟨oneNotices, oneStore, oneResult⟩ := one
  obtain ⟨twoNotices, twoStore, twoResult⟩ := two
  obtain ⟨between, result⟩ := begun
  cases result with
  | error cause => exact ⟨rfl, between, rfl⟩
  | ok opened =>
    rename_i first second
    have finished := between.finish client place arrival opened (delivery.through first.request)
    simp only [← opened.request]
    refine ⟨?_, finished.store, rfl⟩
    have results := finished.result
    simp only at results
    generalize (client.finish first _ oneStore arrival).result = one at results ⊢
    generalize ((client.at place).finish second _ twoStore arrival).result = two at results ⊢
    cases results with
    | error cause => rfl
    | ok same => rw [same]

/-- Of every event the same is seen in worlds that are alike, and they stay so. -/
theorem World.Alike.step {left right : World τ} (alike : World.Alike left right)
    (client : Client τ) (place : StorePlace) {event : StoreEvent τ}
    (within : event.Within client Label.IsText) :
    (client.step left event).1 = ((client.at place).step right event).1 ∧
      World.Alike (client.step left event).2 ((client.at place).step right event).2 := by
  cases event with
  | write batch =>
    obtain ⟨agree, time⟩ := alike
    obtain ⟨first, second, one, two, after⟩ := agree.write left.now within
    simp only [Client.step, ← time, one, two]
    exact ⟨trivial, after, rfl⟩
  | file deposit =>
    obtain ⟨agree, time⟩ := alike
    have filed := agree.deposit client.filing left.now within
    have filing : (client.at place).filing = client.filing := rfl
    simp only [Client.step, ← time, filing]
    generalize left.store.deposit client.filing left.now deposit = one at filed ⊢
    generalize right.store.deposit client.filing left.now deposit = two at filed ⊢
    cases filed with
    | error cause => exact ⟨rfl, agree, time⟩
    | ok after => exact ⟨by simp [after.2], after.1, rfl⟩
  | clear =>
    obtain ⟨agree, time⟩ := alike
    obtain ⟨first, memory⟩ := agree.left
    obtain ⟨second, tables⟩ := agree.right
    simp only [Client.step, Store.clear, memory, tables]
    exact ⟨trivial, .empty, time⟩
  | clock now => exact ⟨rfl, alike.store, rfl⟩
  | call asked delivery arrival => exact alike.call client place within delivery arrival

/-- Of a sequence of events the same is seen in worlds that are alike, and they stay so. -/
theorem World.Alike.steps {left right : World τ} (alike : World.Alike left right)
    (client : Client τ) (place : StorePlace) {events : List (StoreEvent τ)}
    (within : ∀ event ∈ events, event.Within client Label.IsText) :
    (client.steps left events).1 = ((client.at place).steps right events).1 ∧
      World.Alike (client.steps left events).2 ((client.at place).steps right events).2 := by
  induction events generalizing left right with
  | nil => exact ⟨rfl, alike⟩
  | cons event rest ih =>
    obtain ⟨own, others⟩ := List.forall_mem_cons.mp within
    obtain ⟨seen, next⟩ := alike.step client place own
    obtain ⟨later, last⟩ := ih next others
    exact ⟨by simp only [Client.steps, seen, later], last⟩

/-- A store in tables refines one in memory as long as everything is indexed under texts. -/
theorem Client.indistinct_of_texts (client : Client τ) (place : StorePlace) (start : τ)
    {events : List (StoreEvent τ)} (within : ∀ event ∈ events, event.Within client Label.IsText) :
    client.Indistinct place start events := by
  have alike : World.Alike (⟨.memory .empty, start⟩ : World τ)
      ⟨.tables (some .empty), start⟩ := ⟨.empty, rfl⟩
  obtain ⟨seen, agree, time⟩ := alike.steps client place within
  exact ⟨seen, time, fun now key => agree.lookup_eq now key⟩

/-- Runs that index under some of the labels cannot be told apart exactly if the labels are
texts. -/
theorem Client.indistinct_iff_texts (client : Client τ) (place : StorePlace) (start : τ)
    (labels : Label → Prop) :
    (∀ events : List (StoreEvent τ), (∀ event ∈ events, event.Within client labels) →
        client.Indistinct place start events) ↔
      ∀ label, labels label → label.IsText := by
  constructor
  · intro same label held
    by_contra other
    have within : ∀ event ∈ [StoreEvent.write (.marked label)], event.Within client labels := by
      intro event member
      obtain rfl := List.mem_singleton.mp member
      exact ⟨by simp [Batch.Keyed, Batch.marked], by simpa [Batch.marked] using held⟩
    exact client.not_indistinct_marked place start other (same _ within)
  · intro texts events within
    exact client.indistinct_of_texts place start fun event member =>
      StoreEvent.Within.mono texts (within event member)

end Exact

/-- A sequence of events, in which the clock goes back once. -/
def Countries.events : List (StoreEvent Int) :=
  [.write (.marked (.text "1")), .call call delivery 5, .clock 2,
    .file (Client.deposit .standard call [("countries", node)] false (.object [("countries", value)])),
    .call call delivery 700, .clear]

open Countries in
theorem Client.indistinct_countries :
    Client.standard.Indistinct (.file "cache.db") 0 events := by
  have keeps : document.KeepsTypes := by
    refine ⟨fun root field found => ?_, by simp [Document.fragments, document]⟩
    obtain ⟨unmarked, _⟩ := (distinct root field found).typed
    exact unmarked
  have called : call.Within Client.standard Label.IsText := by
    intro settings same options reads
    cases Except.ok.inj (queries.reads.symm.trans reads)
    exact keeps.handled _
  have filed : (Client.deposit .standard call [("countries", node)] false
      (.object [("countries", value)])).Within Client.standard.filing Label.IsText := by
    intro root member key named
    obtain rfl := List.mem_singleton.mp member
    exact Node.queryKey_isText ⟨_, rfl⟩ named
  refine (Client.standard.indistinct_iff_texts (.file "cache.db") 0 Label.IsText).mpr
    (fun _ text => text) events fun event member => ?_
  simp only [events, List.mem_cons, List.not_mem_nil, or_false] at member
  rcases member with rfl | rfl | rfl | rfl | rfl | rfl
  · exact ⟨by simp [Batch.Keyed, Batch.marked], by simp [Batch.marked, Label.IsText]⟩
  · exact called
  · trivial
  · exact filed
  · exact called
  · trivial

/-! ## A fragment that replaces the type mark -/

namespace Spread

def call : Call :=
  ⟨"https://api.example.test/graphql",
    "\x7b a \x7b id ...F \x7d \x7d fragment F on A \x7b __type: name id \x7d", [], [], [], []⟩

def document : Document :=
  ⟨[.operation ⟨.query, none, [], [], [.relation ⟨none, "a", [], []⟩
      [.leaf ⟨none, "id", [], []⟩, .spread "F" []]]⟩,
    .fragment ⟨"F", "A", [], [.leaf ⟨some "__type", "name", [], []⟩, .leaf ⟨none, "id", [], []⟩]⟩]⟩

def delivery : Delivery :=
  .answered 200 (Json.print Json.bodyStyle (.object [("data", .object [("a", .array [])])]))

set_option maxRecDepth 4000 in
theorem queries : Client.standard.Queries call .standard document := ⟨rfl, by cbv, by decide⟩

def batch : Batch Int := .marked (.text "1")

def record : Record Int := ⟨"a--1", "a", "1", [("id", .int 1)], false, none⟩

def request : Request := Client.request .standard call "POST"

def server : Endpoint := ⟨"https", "", "api.example.test", none, "/graphql", none, none⟩

theorem unrefused : request.refusal? = none := by
  have read : Endpoint.read request.endpoint = .ok server :=
    except_ok_of_toOption (by decide +kernel)
  have headers : request.headerRefusal? = none := by decide +kernel
  have unnamed : request.givenHeaders.any (·.1 == "host") = false := by decide +kernel
  have plain : Domain.encodedMark.isPrefixOf server.resolved.host.toList = false := by
    decide +kernel
  have named : server.resolved.server = "api.example.test" := by
    simp [server, Endpoint.resolved, Endpoint.isAbsolute, Endpoint.server]
  have ascii : Text.firstForeign? "api.example.test" = none := by decide +kernel
  simp [Request.refusal?, read, headers, Request.serverRefusal?, unnamed, plain, named, ascii]

def opening (cached : OrderedMap String (List (Record Int))) : Opening Int :=
  ⟨request, Client.queryPlan .standard call document cached⟩

/-- The store after the batch and the call. -/
theorem store_after (place : StorePlace) {empty written : Store Int}
    {cached : OrderedMap String (List (Record Int))} (first : empty.write 0 batch = .ok written)
    (looked : Client.lookupRoots written 0 (Client.standard.lookupName .standard)
      (document.expanded none) = .ok cached) :
    ((Client.standard.at place).steps ⟨empty, 0⟩ [.write batch, .call call delivery 0]).2.store =
      ((Client.standard.at place).finish (opening cached) delivery written 0).store := by
  have again : (Client.standard.at place).Queries call .standard document :=
    ⟨queries.options, queries.reads, queries.eligible⟩
  have stepped : ((Client.standard.at place).step ⟨empty, 0⟩ (.write batch)).2 = ⟨written, 0⟩ := by
    rw [Client.step, first]
  have called := Client.step_call again ⟨written, 0⟩ looked delivery 0
  have through : delivery.through (Client.request .standard call "POST") = delivery := by
    rw [Delivery.through, ← request, unrefused]
  simp only [through] at called
  simp only [Client.steps, stepped, called, opening, request]

end Spread

open Spread in
/-- An entry under the text of the displaced mark is lost from tables, and not from memory. -/
theorem Client.spread_not_indistinct :
    batch.Within Label.IsText ∧
      ¬Client.standard.Indistinct (.file "cache.db") 0 [.write batch, .call call delivery 0] := by
  refine ⟨⟨by simp [Batch.Keyed, batch, Batch.marked],
    by simp [batch, Batch.marked, Label.IsText]⟩, fun same => ?_⟩
  have memory := store_after .memory (show (Store.memory .empty).write 0 batch =
    .ok (.memory (Memory.empty.write 0 batch)) from rfl)
    (show lookupRoots _ 0 _ _ = .ok [] from except_ok_of_toOption (by decide +kernel))
  have tables := store_after (.file "cache.db") (show (Store.tables (some .empty)).write 0 batch =
    .ok (.tables (some (Table.empty.write 0 batch))) from rfl)
    (show lookupRoots _ 0 _ _ = .ok [("a", [record])] from except_ok_of_toOption (by decide +kernel))
  have kept : ((Client.standard.at .memory).finish (opening []) delivery
      (.memory (Memory.empty.write 0 batch)) 0).store.lookup 0 "1" = .ok [record] :=
    except_ok_of_toOption (by decide +kernel)
  have lost : ((Client.standard.at (.file "cache.db")).finish (opening [("a", [record])]) delivery
      (.tables (some (Table.empty.write 0 batch))) 0).store.lookup 0 "1" = .ok [] :=
    except_ok_of_toOption (by decide +kernel)
  have here : Client.standard.at .memory = Client.standard := rfl
  have found := same.lookups 0 "1"
  rw [here] at memory kept
  rw [memory, tables, kept, lost] at found
  simp [Except.map, shown] at found

end GraphCache
