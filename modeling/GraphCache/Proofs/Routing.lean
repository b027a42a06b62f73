import GraphCache.Proofs.Unmarked
import GraphCache.Proofs.WriteHistory

/-! What a call sends, and what it does to the store. Both follow from the document and from
the caller's map of mutations alone: the request is made once whatever the store holds, and
a call without an answer leaves the store as it was before the request. Only a mutation
that may change anything has emptied it by then. -/
namespace GraphCache

/-! ## Mutations -/

/-- Whether the name of a field speaks of creation. -/
def FieldHead.isInsert (head : FieldHead) : Bool := isInsertName (Text.lowercase head.name)

/-- The names of the arguments of a field that are no marks. -/
def FieldHead.argumentNames (head : FieldHead) : List String :=
  (head.arguments.map Argument.name).filter (!isReserved ·)

/-- The arguments of a field that are no marks, by name. -/
def FieldHead.givenArguments (head : FieldHead) : OrderedMap String Json :=
  OrderedMap.ofList ((head.arguments.map fun argument =>
    (argument.name, argument.value.argumentValue)).filter fun entry => !isReserved entry.1)

namespace Document

/-- The roots of a document by response key: of several under one key the last one. -/
def roots (document : Document) : OrderedMap String (FieldHead × List Selection) :=
  OrderedMap.ofList (Selection.branches document.rootSelections)

/-- The first root that is named in a map of mutations, by its response key or by its own name. -/
def mutationRoot? (document : Document) (names : List String) :
    Option (FieldHead × List Selection) :=
  (document.roots.find? fun root =>
    names.contains (Text.lowercase root.1) ||
      names.contains (Text.lowercase root.2.1.name)).map Prod.snd

/-- Whether a document is a mutation that deletes one thing: the root named in the map is no
insert and has one argument. -/
def Deletes (document : Document) (custom : Option String) (names : List String) : Prop :=
  (document.compile custom).route = .mutation ∧
    ∃ field, document.mutationRoot? names = some field ∧ field.1.isInsert = false ∧
      ∃ name, ∀ other, other ∈ field.1.argumentNames ↔ other = name

end Document

/-- What a call does to the store when its document has been read. -/
inductive Effect where
  /-- Nothing at all. -/
  | keep
  /-- The answer is filed under these roots. -/
  | file (prototype : Prototype) (fromMutation : Bool)
  /-- Everything is dropped, whatever comes of the request. -/
  | clear

def Document.effect (document : Document) (custom : Option String) (names : List String) : Effect :=
  match (document.compile custom).route with
  | .pass _ => .keep
  | .query => .file (document.expanded custom) false
  | .mutation =>
    match document.mutationRoot? names with
    | none => .clear
    | some field =>
      if field.1.isInsert then .file (document.compile custom).prototype true else .clear

namespace Document

variable {document : Document} {custom : Option String}

theorem effect_of_pass {reason : Option String}
    (route : (document.compile custom).route = .pass reason) (names : List String) :
    document.effect custom names = .keep := by
  rw [effect, route]

theorem effect_of_query (route : (document.compile custom).route = .query)
    (names : List String) :
    document.effect custom names = .file (document.expanded custom) false := by
  rw [effect, route]

/-- The root that decides about a mutation decides about its effect. -/
theorem effect_of_mutation (route : (document.compile custom).route = .mutation)
    (names : List String) :
    document.effect custom names =
      match document.mutationRoot? names with
      | none => .clear
      | some field =>
        if field.1.isInsert then .file (document.compile custom).prototype true else .clear := by
  rw [effect, route]

end Document

namespace FieldHead

variable (head : FieldHead) (custom : Option String) {selections : List Selection}

theorem mem_keys_givenArguments (name : String) :
    name ∈ OrderedMap.keys head.givenArguments ↔ name ∈ head.argumentNames := by
  rw [givenArguments, OrderedMap.ofList, OrderedMap.mem_keys_overlay]
  simp [OrderedMap.keys, argumentNames]

theorem argumentFields_node (unmarked : Selection.last? selections Mark.arguments = none) :
    (head.node custom selections).argumentFields = .ok head.givenArguments := by
  have marked : OrderedMap.get? (head.marks custom) Mark.arguments = some (.literal
      (if head.givenArguments.isEmpty then .null else .object head.givenArguments)) := by
    rw [marks, OrderedMap.get?_overlay]
    rfl
  rw [Node.argumentFields, Node.arguments, Node.mark, head.get?_node_mark custom marked, unmarked]
  cases given : head.givenArguments <;> simp [Entry.toJson, Json.isTruthy]

/-- A mutation is sent as a deletion exactly if it has one argument. -/
theorem invalidationMethod_node (unmarked : Selection.last? selections Mark.arguments = none) :
    Client.invalidationMethod (head.node custom selections) = "DELETE" ∧
        (∃ name, ∀ other, other ∈ head.argumentNames ↔ other = name) ∨
      Client.invalidationMethod (head.node custom selections) = "POST" ∧
        ¬∃ name, ∀ other, other ∈ head.argumentNames ↔ other = name := by
  have unique : (OrderedMap.keys head.givenArguments).Nodup := OrderedMap.keys_ofList_nodup _
  have single : (∃ name, ∀ other, other ∈ head.argumentNames ↔ other = name) ↔
      ∃ name, OrderedMap.keys head.givenArguments = [name] := by
    refine exists_congr fun name => ?_
    rw [← List.perm_singleton, List.perm_ext_iff_of_nodup unique (List.nodup_singleton name)]
    simp [mem_keys_givenArguments]
  rw [single, Client.invalidationMethod, head.argumentFields_node custom unmarked]
  match head.givenArguments with
  | [] => exact .inr ⟨rfl, by simp [OrderedMap.keys]⟩
  | [entry] => exact .inl ⟨rfl, entry.1, rfl⟩
  | first :: second :: rest => exact .inr ⟨rfl, by simp [OrderedMap.keys]⟩

theorem mutationType_node (unmarked : Selection.last? selections Mark.typeName = none) :
    (head.node custom selections).mutationType = .string (Text.lowercase head.name) := by
  rw [Node.mutationType, head.typeLabel_node custom unmarked]
  rfl

end FieldHead

namespace Document

variable {document : Document} {custom : Option String}

/-- The compiled roots are the nodes of the roots. -/
theorem compiled_roots (clear : (document.compile custom).obstacle = none) :
    (document.compile custom).prototype =
      document.roots.map fun root => (root.1, root.2.1.node custom root.2.2) := by
  rw [(compiled_trees clear).1, translatedRoots_eq, Selection.relationsOf_eq_map, roots]
  exact OrderedMap.ofList_map _ fun field : FieldHead × List Selection => field.1.node custom field.2

theorem Unmarked.plain_root (unmarked : document.Unmarked)
    (clear : (document.compile custom).obstacle = none) {root : String × FieldHead × List Selection}
    (member : root ∈ document.roots) : Selection.Plain root.2.2 := by
  have found : Selection.last? document.rootSelections root.1 = some root.2 := by
    rw [Selection.last?, ← OrderedMap.get?_ofList]
    exact OrderedMap.get?_eq_some_of_mem (OrderedMap.keys_ofList_nodup _) member
  exact ((unmarked.plain_roots clear).last? found).2

/-- No relation of a root takes the place of its type mark. -/
def RootsTyped (document : Document) : Prop :=
  ∀ root ∈ document.roots, Selection.last? root.2.2 Mark.typeName = none

theorem Unmarked.rootsTyped (unmarked : document.Unmarked)
    (clear : (document.compile custom).obstacle = none) : document.RootsTyped :=
  fun _ member => (unmarked.plain_root clear member).unmarked (by decide)

theorem mem_roots_of_mutationRoot? {names : List String} {field : FieldHead × List Selection}
    (named : document.mutationRoot? names = some field) :
    ∃ root, (root, field) ∈ document.roots := by
  obtain ⟨root, found, rfl⟩ := Option.map_eq_some_iff.mp named
  exact ⟨root.1, List.mem_of_find?_eq_some found⟩

/-- The root that a map names is found among the compiled ones. -/
theorem RootsTyped.findMutation_eq (typed : document.RootsTyped)
    (clear : (document.compile custom).obstacle = none) (names : List String) :
    ∃ found, findMutation names (document.compile custom).prototype = .ok found ∧
      found.map Prod.snd = (document.mutationRoot? names).map fun field =>
        field.1.node custom field.2 := by
  rw [compiled_roots clear, mutationRoot?]
  rw [RootsTyped] at typed
  generalize document.roots = roots at typed
  induction roots with
  | nil => exact ⟨none, rfl, rfl⟩
  | cons root rest ih =>
    obtain ⟨own, others⟩ := List.forall_mem_cons.mp typed
    have mapped : isMapped names root.1 (root.2.1.node custom root.2.2) =
        .ok (names.contains (Text.lowercase root.1) ||
          names.contains (Text.lowercase root.2.1.name)) := by
      rw [isMapped, root.2.1.mutationType_node custom own]
      cases names.contains (Text.lowercase root.1) <;> rfl
    rw [List.map_cons, findMutation, mapped, List.find?_cons]
    cases names.contains (Text.lowercase root.1) ||
      names.contains (Text.lowercase root.2.1.name) with
    | true => exact ⟨_, rfl, rfl⟩
    | false => exact ih others

end Document

/-- An answer that gets through is what the server delivers. -/
theorem Delivery.answer_of_through {request : Request} {delivery : Delivery} {endpoint : String}
    {answer : Answer} (delivered : (delivery.through request).answer endpoint = .ok answer) :
    delivery.answer endpoint = .ok answer := by
  rw [through] at delivered
  split at delivered
  · cases delivered
  · exact delivered

/-! ## The first step -/

/-- The store while the request is under way. -/
def Effect.sending {τ : Type} (effect : Effect) (store : Store τ) : Store τ :=
  match effect with
  | .clear => store.kind.empty
  | _ => store

/-- The store after an answer. -/
def Effect.Leaves {τ : Type} [Instant τ] (effect : Effect) (client : Client τ) (settings : Settings)
    (asked : Call) (store : Store τ) (arrival : τ) (data : Json) (after : Store τ) : Prop :=
  match effect with
  | .keep => after = store
  | .file prototype fromMutation =>
    ∃ batch, store.deposit client.filing arrival
      (Client.deposit settings asked prototype fromMutation data) = .ok (after, batch)
  | .clear => after = store.kind.empty

namespace Client

variable {τ : Type} [Instant τ]

/-- Plans that have an effect. -/
inductive PlanFor (settings : Settings) (asked : Call) : Effect → Plan τ → Prop where
  | pass : PlanFor settings asked .keep .pass
  | wrap : PlanFor settings asked .clear .wrap
  | insert (prototype : Prototype) (mutation : Json) :
      PlanFor settings asked (.file prototype true)
        (.insert (deposit settings asked prototype true) mutation)
  | query (prototype : Prototype) (custom : Option String)
      (cached : OrderedMap String (List (Record τ))) :
      PlanFor settings asked (.file prototype false)
        (.query (deposit settings asked prototype false) prototype custom cached)

/-- The end of a first step that goes on: what is sent, and what is to come of it. -/
structure Opens (settings : Settings) (asked : Call) (document : Document) (opening : Opening τ) :
    Prop where
  endpoint : opening.request.endpoint = asked.endpoint
  query : opening.request.query = asked.query
  method : opening.request.method = "DELETE" ∧
      document.Deletes settings.cache.custom (mappedNames asked.mutationMap) ∨
    opening.request.method = "POST" ∧
      ¬document.Deletes settings.cache.custom (mappedNames asked.mutationMap)
  plan : PlanFor settings asked
    (document.effect settings.cache.custom (mappedNames asked.mutationMap)) opening.plan

variable {client : Client τ} {asked : Call} {settings : Settings} {document : Document}
  {store : Store τ}

omit [Instant τ] in
theorem openCleared_eq (ready : store.Open) (notices : List Notice) (opening : Opening τ) :
    ∃ noted, client.openCleared notices opening store = ⟨noted, store.kind.empty, .ok opening⟩ := by
  rw [openCleared, Store.clear_ok ready]
  exact ⟨_, rfl⟩

/-- What the first step of a mutation does, told by the root that the map names. -/
theorem openMutation_eq (typed : document.RootsTyped)
    (mutation : (document.compile settings.cache.custom).route = .mutation) (asked : Call)
    (store : Store τ) :
    client.openMutation settings asked (document.compile settings.cache.custom) store =
      match document.mutationRoot? (mappedNames asked.mutationMap) with
      | none => client.openCleared ((document.compile settings.cache.custom).notices ++
          [.unmapped (OrderedMap.keys (document.compile settings.cache.custom).prototype)])
          ⟨request settings asked "POST", .wrap⟩ store
      | some field =>
        let node := field.1.node settings.cache.custom field.2
        if field.1.isInsert then
          ⟨(document.compile settings.cache.custom).notices, store,
            .ok ⟨request settings asked "POST",
              .insert (deposit settings asked
                (document.compile settings.cache.custom).prototype true) node.mutationType⟩⟩
        else
          client.openCleared ((document.compile settings.cache.custom).notices ++
            [.invalidated node.mutationType (invalidationMethod node)])
            ⟨request settings asked (invalidationMethod node), .wrap⟩ store := by
  have clear := Document.clear_of_route fun reason passed => by cases mutation.symm.trans passed
  obtain ⟨found, searched, named⟩ := typed.findMutation_eq clear (mappedNames asked.mutationMap)
  rw [openMutation, searched]
  cases root : document.mutationRoot? (mappedNames asked.mutationMap) with
  | none =>
    rw [root, Option.map_none, Option.map_eq_none_iff] at named
    rw [named]
  | some field =>
    rw [root, Option.map_some, Option.map_eq_some_iff] at named
    obtain ⟨⟨key, node⟩, rfl, rfl⟩ := named
    obtain ⟨key, member⟩ := Document.mem_roots_of_mutationRoot? root
    have inserts : isInsertType (field.1.node settings.cache.custom field.2).mutationType =
        field.1.isInsert := by
      rw [field.1.mutationType_node settings.cache.custom (typed _ member)]
      rfl
    simp only [inserts]

private theorem openMutation_opens (ready : store.Open) (unmarked : document.Unmarked)
    (mutation : (document.compile settings.cache.custom).route = .mutation) :
    ∃ notices opening,
      client.openMutation settings asked (document.compile settings.cache.custom) store =
        ⟨notices, (document.effect settings.cache.custom (mappedNames asked.mutationMap)).sending
          store, .ok opening⟩ ∧
      Opens settings asked document opening := by
  have clear := Document.clear_of_route fun reason passed => by cases mutation.symm.trans passed
  rw [openMutation_eq (unmarked.rootsTyped clear) mutation]
  cases root : document.mutationRoot? (mappedNames asked.mutationMap) with
  | none =>
    have effect : document.effect settings.cache.custom (mappedNames asked.mutationMap) = .clear := by
      rw [Document.effect_of_mutation mutation, root]
    have other : ¬document.Deletes settings.cache.custom (mappedNames asked.mutationMap) := by
      simp [Document.Deletes, root]
    obtain ⟨noted, opened⟩ := client.openCleared_eq ready
      ((document.compile settings.cache.custom).notices ++
        [.unmapped (OrderedMap.keys (document.compile settings.cache.custom).prototype)])
      ⟨request settings asked "POST", .wrap⟩
    rw [effect]
    exact ⟨noted, _, opened, rfl, rfl, .inr ⟨rfl, other⟩, effect ▸ .wrap⟩
  | some field =>
    obtain ⟨key, member⟩ := Document.mem_roots_of_mutationRoot? root
    have plain := unmarked.plain_root clear member
    cases insert : field.1.isInsert with
    | true =>
      have effect : document.effect settings.cache.custom (mappedNames asked.mutationMap) =
          .file (document.compile settings.cache.custom).prototype true := by
        rw [Document.effect_of_mutation mutation, root]
        simp [insert]
      have other : ¬document.Deletes settings.cache.custom (mappedNames asked.mutationMap) := by
        simp [Document.Deletes, root, insert]
      rw [effect]
      simp only [insert, ↓reduceIte]
      exact ⟨_, _, rfl, rfl, rfl, .inr ⟨rfl, other⟩, effect ▸ .insert _ _⟩
    | false =>
      have effect : document.effect settings.cache.custom (mappedNames asked.mutationMap) =
          .clear := by
        rw [Document.effect_of_mutation mutation, root]
        simp [insert]
      have deletes : document.Deletes settings.cache.custom (mappedNames asked.mutationMap) ↔
          ∃ name, ∀ other, other ∈ field.1.argumentNames ↔ other = name := by
        simp [Document.Deletes, mutation, root, insert]
      obtain ⟨noted, opened⟩ := client.openCleared_eq ready
        ((document.compile settings.cache.custom).notices ++
          [.invalidated (field.1.node settings.cache.custom field.2).mutationType
            (invalidationMethod (field.1.node settings.cache.custom field.2))])
        ⟨request settings asked (invalidationMethod (field.1.node settings.cache.custom field.2)),
          .wrap⟩
      rw [effect]
      simp only [insert, Bool.false_eq_true, ↓reduceIte]
      refine ⟨noted, _, opened, rfl, rfl, ?_, effect ▸ .wrap⟩
      rw [deletes]
      exact field.1.invalidationMethod_node settings.cache.custom (plain.unmarked (by decide))

/-- The first step of a call whose document has been read goes on. -/
theorem begin_opens (options : client.settings.withOptions client.homes asked.options = .ok settings)
    (reads : readQuery asked.query = .ok document) (unmarked : document.Unmarked)
    (ready : store.Open) (now : τ) :
    ∃ notices opening, client.begin asked store now =
        ⟨notices, (document.effect settings.cache.custom (mappedNames asked.mutationMap)).sending
          store, .ok opening⟩ ∧
      Opens settings asked document opening := by
  simp only [begin, options, reads]
  cases route : (document.compile settings.cache.custom).route with
  | pass reason =>
    rw [Document.effect_of_pass route]
    exact ⟨_, _, rfl, rfl, rfl, .inr ⟨rfl, by simp [Document.Deletes, route]⟩,
      Document.effect_of_pass route _ ▸ .pass⟩
  | query =>
    have effect := Document.effect_of_query route (mappedNames asked.mutationMap)
    have clear := Document.clear_of_route fun reason passed => by cases route.symm.trans passed
    obtain ⟨cached, looked⟩ := lookupRoots_of_texts ready (fun root member =>
      (unmarked.expanded_ready clear (client.lookupName settings) root member).2) now
    obtain ⟨notices, opened⟩ : ∃ notices,
        client.openQuery settings asked (document.compile settings.cache.custom) store now =
          ⟨notices, store, .ok ⟨request settings asked "POST",
            queryPlan settings asked document cached⟩⟩ := by
      rw [openQuery, ← Document.expanded, looked]
      exact ⟨_, rfl⟩
    rw [effect]
    exact ⟨notices, _, opened, rfl, rfl, .inr ⟨rfl, by simp [Document.Deletes, route]⟩,
      effect ▸ .query _ _ _⟩
  | mutation => exact openMutation_opens ready unmarked route

/-! ## The second step -/

/-- The second step of a call does to the store what its document says. -/
theorem finish_leaves {effect : Effect} {opening : Opening τ}
    (plan : PlanFor settings asked effect opening.plan) (ready : store.Open)
    (roots : ∀ prototype fromMutation, effect = .file prototype fromMutation → ∀ custom,
      ∀ root ∈ prototype, root.2.Typed ∧ ∃ key, root.2.queryKey custom = .ok (.text key))
    {delivery : Delivery} {answer : Answer}
    (delivered : delivery.answer opening.request.endpoint = .ok answer)
    {fields : OrderedMap String Json} (read : dataFields (dataOf answer) = .ok fields) (now : τ) :
    ∃ returned, (client.finish opening delivery (effect.sending store) now).result = .ok returned ∧
      effect.Leaves client settings asked store now (dataOf answer)
        (client.finish opening delivery (effect.sending store) now).store := by
  obtain ⟨request, plan'⟩ := opening
  simp only at plan delivered
  cases plan with
  | pass => exact ⟨answer, by simp [finish, delivered, carryOut], by
      simp [finish, delivered, carryOut, Effect.Leaves, Effect.sending]⟩
  | wrap => exact ⟨wrap (dataOf answer) answer, by simp [finish, delivered, carryOut], by
      simp [finish, delivered, carryOut, Effect.Leaves, Effect.sending]⟩
  | insert prototype mutation =>
    obtain ⟨⟨after, batch⟩, stored⟩ : ∃ result, store.deposit client.filing now
        (deposit settings asked prototype true (dataOf answer)) = .ok result :=
      Store.deposit_of_ready ready (roots prototype true rfl) read
    simp only [finish, delivered, carryOut, file, Effect.sending, stored]
    exact ⟨_, rfl, batch, stored⟩
  | query prototype custom cached =>
    obtain ⟨⟨after, batch⟩, stored⟩ : ∃ result, store.deposit client.filing now
        (deposit settings asked prototype false (dataOf answer)) = .ok result :=
      Store.deposit_of_ready ready (roots prototype false rfl) read
    obtain ⟨returned, completed⟩ := complete_ok read prototype custom cached
    simp only [finish, delivered, carryOut, file, Effect.sending, stored, completed]
    exact ⟨_, rfl, batch, stored⟩

/-- The roots under which an answer is filed are typed throughout and have texts for keys. -/
theorem effect_ready (unmarked : document.Unmarked) {custom : Option String} {names : List String}
    {prototype : Prototype} {fromMutation : Bool}
    (files : document.effect custom names = .file prototype fromMutation) (name : Option String) :
    ∀ root ∈ prototype, root.2.Typed ∧ ∃ key, root.2.queryKey name = .ok (.text key) := by
  rw [Document.effect] at files
  split at files
  · cases files
  · rename_i route
    cases files
    exact unmarked.expanded_ready (Document.clear_of_route (by simp [route])) name
  · rename_i route
    split at files
    · cases files
    · split at files
      · cases files
        exact unmarked.ready (Document.clear_of_route (by simp [route])) name
      · cases files

/-! ## Calls -/

/-- What a call sends and what it does to the store. Without settings or a document nothing is
sent and nothing changes. Otherwise one request is made with the caller's text, and a failure
to get an answer is reported as it is. -/
theorem call_effects (client : Client τ) (asked : Call) (delivery : Delivery) (arrival : τ)
    (world : World τ) (ready : world.store.Open)
    (unmarked : ∀ document, readQuery asked.query = .ok document → document.Unmarked)
    (answers : ∀ answer, delivery.answer asked.endpoint = .ok answer →
      dataOf answer = .null ∨ ∃ fields, dataOf answer = .object fields) :
    (∀ issues, client.settings.withOptions client.homes asked.options = .error issues →
      client.step world (.call asked delivery arrival) =
        (.answer none (.error (.invalidOptions issues)), world)) ∧
    (∀ settings cause, client.settings.withOptions client.homes asked.options = .ok settings →
      readQuery asked.query = .error cause →
      client.step world (.call asked delivery arrival) =
        (.answer none (.error (.failure cause)), world)) ∧
    ∀ settings document, client.settings.withOptions client.homes asked.options = .ok settings →
      readQuery asked.query = .ok document →
      ∃ sent result after, client.step world (.call asked delivery arrival) =
          (.answer (some sent) result, ⟨after, arrival⟩) ∧
        sent.query = asked.query ∧
        (sent.method = "DELETE" ∧
            document.Deletes settings.cache.custom (mappedNames asked.mutationMap) ∨
          sent.method = "POST" ∧
            ¬document.Deletes settings.cache.custom (mappedNames asked.mutationMap)) ∧
        match (delivery.through sent).answer asked.endpoint with
        | .error cause => result = .error (.ofSend cause) ∧
            after = (document.effect settings.cache.custom
              (mappedNames asked.mutationMap)).sending world.store
        | .ok answer => ∃ returned, result = .ok returned ∧
            (document.effect settings.cache.custom (mappedNames asked.mutationMap)).Leaves client
              settings asked world.store arrival (dataOf answer) after := by
  refine ⟨fun issues options => by simp [step, begin, options],
    fun settings cause options reads => by simp [step, begin, options, reads],
    fun settings document options reads => ?_⟩
  have unmarked := unmarked document reads
  obtain ⟨notices, opening, begun, opens⟩ := begin_opens options reads unmarked ready world.now
  let outcome := client.finish opening (delivery.through opening.request)
    ((document.effect settings.cache.custom (mappedNames asked.mutationMap)).sending world.store)
    arrival
  have stepped : client.step world (.call asked delivery arrival) =
      (.answer (some opening.request) outcome.result, ⟨outcome.store, arrival⟩) := by
    simp only [step, begun, outcome]
  refine ⟨opening.request, _, _, stepped, opens.query, opens.method, ?_⟩
  rw [← opens.endpoint]
  cases delivered : (delivery.through opening.request).answer opening.request.endpoint with
  | error cause => simp [outcome, finish, delivered]
  | ok answer =>
    have sent := Delivery.answer_of_through delivered
    rw [opens.endpoint] at sent
    obtain ⟨fields, read⟩ : ∃ fields, dataFields (dataOf answer) = .ok fields := by
      obtain null | ⟨fields, object⟩ := answers answer sent
      · exact ⟨[], by rw [null]; rfl⟩
      · exact ⟨fields, by rw [object]; rfl⟩
    exact finish_leaves opens.plan ready
      (fun prototype fromMutation files => effect_ready unmarked files) delivered read arrival

end Client

/-! ## A deletion that fails -/

namespace Deletion

def call : Call :=
  ⟨"https://api.example.test/graphql",
    "mutation \x7b deleteCountry(id: 1) \x7b id \x7d \x7d",
    [("deleteCountry", .string "Country")], [], [], []⟩

def field : FieldHead × List Selection :=
  (⟨none, "deleteCountry", [⟨"id", .int "1"⟩], []⟩, [.leaf ⟨none, "id", [], []⟩])

def document : Document := ⟨[.operation ⟨.mutation, none, [], [], [.relation field.1 field.2]⟩]⟩

set_option maxRecDepth 4000 in
theorem reads : readQuery call.query = .ok document := by cbv

theorem unmarked : document.Unmarked := by
  simp [Document.Unmarked, Document.heads, document, field, Definition.selections,
    Selection.headsOf, Selection.heads]

theorem named : document.mutationRoot? (mappedNames call.mutationMap) = some field := by
  have lowered : Text.lowercase "deleteCountry" = "deletecountry" := by decide +kernel
  have roots : document.roots = [("deleteCountry", field)] := rfl
  simp [Document.mutationRoot?, roots, mappedNames, call, lowered]

theorem deletes : document.Deletes none (mappedNames call.mutationMap) := by
  refine ⟨by decide, field, named, by decide +kernel, "id", fun other => ?_⟩
  have names : field.1.argumentNames = ["id"] := by decide
  rw [names, List.mem_singleton]

theorem effect : document.effect none (mappedNames call.mutationMap) = .clear := by
  have route : (document.compile none).route = .mutation := by decide
  have deletion : field.1.isInsert = false := by decide +kernel
  simp [Document.effect, route, named, deletion]

end Deletion

open Deletion in
/-- The request fails, and the store has been emptied all the same. -/
theorem Client.call_effects_deletion :
    ∃ sent cause, Client.standard.step ⟨Countries.store, 0⟩ (.call call (.failed "down") 1) =
        (.answer (some sent) (.error (.ofSend cause)), ⟨.memory .empty, 1⟩) ∧
      sent.query = call.query ∧ sent.method = "DELETE" := by
  have ready : Countries.store.Open := Store.open_memory _
  have plain : ∀ other, readQuery call.query = .ok other → other.Unmarked := by
    intro other again
    rw [reads] at again
    cases again
    exact unmarked
  obtain ⟨_, _, effects⟩ := Client.standard.call_effects call (.failed "down") 1
    ⟨Countries.store, 0⟩ ready plain fun answer delivered => by cases delivered
  obtain ⟨sent, result, after, stepped, query, method, left⟩ :=
    effects .standard document rfl reads
  obtain ⟨cause, failed⟩ : ∃ cause,
      ((Delivery.failed "down").through sent).answer call.endpoint = .error cause := by
    rw [Delivery.through]
    split <;> exact ⟨_, rfl⟩
  rw [failed] at left
  obtain ⟨rfl, rfl⟩ := left
  refine ⟨sent, cause, ?_, query, (method.resolve_right fun post => post.2 deletes).1⟩
  rw [stepped, show Settings.standard.cache.custom = none from rfl, effect]
  rfl

end GraphCache
