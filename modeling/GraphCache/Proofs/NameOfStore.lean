import GraphCache.Proofs.CallOptions
import GraphCache.Proofs.CallsInFlight
import GraphCache.Proofs.IdentifierName

/-! A client without an identifier name of its own over a store that has one. Looking up and
filing fall back to the name of the store, but compiling and pairing items do not. So calls can
end differently when the client is given the name as well. -/
namespace GraphCache

/-! ## Calls under two names -/

/-- The client with another identifier name in its settings, or with none. -/
def Client.named {τ : Type} (client : Client τ) (name : Option String) : Client τ :=
  { client with settings := client.settings.named name }

/-- Outcomes with the same store and related results. -/
structure Outcome.Matches {τ α β : Type} (related : α → β → Prop) (left : Outcome τ α)
    (right : Outcome τ β) : Prop where
  store : left.store = right.store
  result : GraphCache.Alike related left.result right.result

theorem Outcome.Matches.refl {τ α : Type} (outcome : Outcome τ α) :
    Outcome.Matches Eq outcome outcome := by
  obtain ⟨notices, store, result⟩ := outcome
  cases result with
  | error cause => exact ⟨rfl, .error cause⟩
  | ok result => exact ⟨rfl, .ok rfl⟩

/-- Outcomes with the same results differ in their notices only. -/
theorem Outcome.Matches.result_eq {τ α : Type} {left right : Outcome τ α}
    (same : Outcome.Matches Eq left right) : left.result = right.result := by
  obtain ⟨_, result⟩ := same
  generalize left.result = one at result
  generalize right.result = two at result
  cases result with
  | error cause => rfl
  | ok same => rw [same]

namespace Client
variable {τ : Type} [Instant τ]

/-- The first step of a call whose settings are known. -/
def beginWith (client : Client τ) (settings : Settings) (asked : Call) (store : Store τ) (now : τ) :
    Outcome τ (Opening τ) :=
  match readQuery asked.query with
  | .error cause => ⟨[], store, .error (.failure cause)⟩
  | .ok document =>
    let compiled := document.compile settings.cache.custom
    match compiled.route with
    | .query => client.openQuery settings asked compiled store now
    | .mutation => client.openMutation settings asked compiled store
    | .pass reason =>
      ⟨compiled.notices ++ [.passedThrough reason], store, .ok ⟨request settings asked "POST", .pass⟩⟩

theorem begin_eq (client : Client τ) (asked : Call) (store : Store τ) (now : τ) :
    client.begin asked store now =
      match client.settings.withOptions client.homes asked.options with
      | .error issues => ⟨[], store, .error (.invalidOptions issues)⟩
      | .ok settings => client.beginWith settings asked store now := rfl

/-- Openings that send the same, and do the same with what is delivered. -/
structure SameEnd (client : Client τ) (delivery : Delivery) (one two : Opening τ) : Prop where
  request : one.request = two.request
  finish : ∀ store now, Outcome.Matches Eq
    (client.finish one (delivery.through one.request) store now)
    (client.finish two (delivery.through two.request) store now)

variable {client : Client τ} {name : String}

/-- A name and the same name to fall back to are that name. -/
private theorem givenName?_or (name : String) :
    (givenName? (some name) <|> some name) = some name := by
  rw [givenName?, Option.filter_some]
  split <;> rfl

/-- Where the store has the name, filing falls back to it. -/
private theorem file_named (leaves : client.filing.custom = some name) (settings : Settings)
    (asked : Call) (prototype : Prototype) (fromMutation : Bool) (answer : Answer) (store : Store τ)
    (now : τ) :
    client.file (deposit (settings.named none) asked prototype fromMutation) answer store now =
      client.file (deposit (settings.named (some name)) asked prototype fromMutation) answer store
        now := by
  have filing : (deposit (settings.named none) asked prototype fromMutation (dataOf answer)).filing
        client.filing now =
      (deposit (settings.named (some name)) asked prototype fromMutation (dataOf answer)).filing
        client.filing now := by
    simp only [Deposit.filing, deposit, Settings.named, leaves, givenName?_or]
    rfl
  simp only [file, Store.deposit, filing]
  rfl

omit [Instant τ] in
/-- Looking up falls back to it as well. -/
private theorem lookupName_named (leaves : client.filing.custom = some name) (settings : Settings) :
    client.lookupName (settings.named none) = client.lookupName (settings.named (some name)) := by
  simp only [lookupName, Settings.named, leaves, givenName?_or]
  rfl

end Client

/-- Every record that is held is alike. -/
def Store.HoldsAlike {τ : Type} (store : Store τ) (name : String) (rename : String → String) : Prop :=
  ∀ key record, store.record? key = some record →
    (Json.object record.data).IdentifiesAlike name rename

namespace Client
variable {τ : Type} [Instant τ] {client : Client τ} {name : String} {rename : String → String}

/-- What is found for a root is held. -/
private theorem holdsAlike_lookupRoots {store : Store τ}
    (held : store.HoldsAlike name rename) {now : τ} {custom : Option String} {prototype : Prototype}
    {cached : OrderedMap String (List (Record τ))}
    (looked : lookupRoots store now custom prototype = .ok cached) :
    ∀ root, ∀ record ∈ (OrderedMap.get? cached root).getD [],
      (Json.object record.data).IdentifiesAlike name rename := by
  induction prototype generalizing cached with
  | nil =>
    cases looked
    exact fun root record member => absurd member List.not_mem_nil
  | cons entry rest ih =>
    simp only [lookupRoots, bind, except_bind_ok, except_mapError_ok, pure, Except.pure,
      Except.ok.injEq] at looked
    obtain ⟨key, _, records, recalled, others, later, rfl⟩ := looked
    intro root record member
    split at member
    · exact ih later root record member
    · rw [OrderedMap.get?] at member
      split at member
      · obtain ⟨place, found⟩ := Store.record?_of_recall recalled record member
        exact held place record found
      · exact ih later root record member

/-- The first step of a query under both names, and what it leads to. -/
private theorem openQuery_matches (leaves : client.filing.custom = some name)
    (apart : KeepsApart rename) (settings : Settings) (asked : Call) {one two : Compilation}
    (same : Prototype.expand one.prototype one.fragments =
      Prototype.expand two.prototype two.fragments)
    {store : Store τ} (held : store.HoldsAlike name rename) (now : τ) {delivery : Delivery}
    (brought : ∀ answer, delivery.answer asked.endpoint = .ok answer →
      (dataOf answer).IdentifiesAlike name rename) :
    Outcome.Matches (client.SameEnd delivery)
      (client.openQuery (settings.named none) asked one store now)
      (client.openQuery (settings.named (some name)) asked two store now) := by
  simp only [openQuery, same, lookupName_named leaves settings]
  cases looked : lookupRoots store now (client.lookupName (settings.named (some name)))
      (Prototype.expand two.prototype two.fragments) with
  | error cause => exact ⟨rfl, .error cause⟩
  | ok cached =>
    refine ⟨rfl, .ok ⟨rfl, fun store now => ?_⟩⟩
    have sent : request (settings.named none) asked "POST" =
        request (settings.named (some name)) asked "POST" := rfl
    simp only [finish, sent]
    cases delivered : (delivery.through (request (settings.named (some name)) asked "POST")).answer
        (request (settings.named (some name)) asked "POST").endpoint with
    | error cause => exact .refl _
    | ok answer =>
      have completed : complete (Prototype.expand two.prototype two.fragments)
            (settings.named none).cache.custom cached answer =
          complete (Prototype.expand two.prototype two.fragments)
            (settings.named (some name)).cache.custom cached answer :=
        complete_named apart _ (brought answer (Delivery.answer_of_through delivered))
          (holdsAlike_lookupRoots held looked)
      simp only [carryOut, file_named leaves, completed]
      exact .refl _

/-- The first step of a mutation under both names, and what it leads to. -/
private theorem openMutation_matches (leaves : client.filing.custom = some name)
    (settings : Settings) (asked : Call) {one two : Compilation}
    (same : one.prototype = two.prototype) (store : Store τ) (delivery : Delivery) :
    Outcome.Matches (client.SameEnd delivery)
      (client.openMutation (settings.named none) asked one store)
      (client.openMutation (settings.named (some name)) asked two store) := by
  have sent (method : String) : request (settings.named none) asked method =
      request (settings.named (some name)) asked method := rfl
  have cleared (notices others : List Notice) (method : String) :
      Outcome.Matches (client.SameEnd delivery)
        (client.openCleared notices ⟨request (settings.named none) asked method, .wrap⟩ store)
        (client.openCleared others ⟨request (settings.named (some name)) asked method, .wrap⟩
          store) := by
    rw [sent, openCleared, openCleared]
    cases store.clear with
    | error cause => exact ⟨rfl, .error _⟩
    | ok after => exact ⟨rfl, .ok ⟨rfl, fun _ _ => .refl _⟩⟩
  simp only [openMutation, same]
  cases findMutation (mappedNames asked.mutationMap) two.prototype with
  | error cause => exact ⟨rfl, .error _⟩
  | ok found =>
    cases found with
    | none => exact cleared _ _ _
    | some entry =>
      obtain ⟨root, node⟩ := entry
      simp only
      split
      · refine ⟨rfl, .ok ⟨rfl, fun store now => ?_⟩⟩
        simp only [finish, sent, carryOut, file_named leaves]
        exact .refl _
      · exact cleared _ _ _

/-- The settings of a call are those of the client, identifier name and all, but for what options
of other names set. -/
def KeepsName (client : Client τ) (asked : Call) (settings : Settings) : Prop :=
  ∀ custom, (client.settings.named custom).withOptions client.homes asked.options =
    .ok (settings.named custom)

/-- An event at which it makes no difference whether a client has the name: a call reads its
document alike, and if that is a query, all objects in the answer and in the store are alike. -/
def MeetsAlike (client : Client τ) (name : String) (rename : String → String) (store : Store τ) :
    StoreEvent τ → Prop
  | .call asked delivery _ => ∀ settings document, client.KeepsName asked settings →
      readQuery asked.query = .ok document →
      (document.compile none).Alike (document.compile (some name)) ∧
        ((document.compile none).route = .query → store.HoldsAlike name rename ∧
          ∀ answer, delivery.answer asked.endpoint = .ok answer →
            (dataOf answer).IdentifiesAlike name rename)
  | _ => True

private theorem SameEnd.refl (delivery : Delivery) (opening : Opening τ) :
    client.SameEnd delivery opening opening := ⟨rfl, fun _ _ => .refl _⟩

private theorem matches_refl (delivery : Delivery) (outcome : Outcome τ (Opening τ)) :
    Outcome.Matches (client.SameEnd delivery) outcome outcome := by
  obtain ⟨notices, store, result⟩ := outcome
  cases result with
  | error cause => exact ⟨rfl, .error cause⟩
  | ok opening => exact ⟨rfl, .ok (.refl delivery opening)⟩

/-- The first step of a call under both names, once its settings are known. -/
private theorem beginWith_matches (leaves : client.filing.custom = some name)
    (apart : KeepsApart rename) {settings : Settings} {asked : Call}
    (keeps : client.KeepsName asked settings) {store : Store τ} {delivery : Delivery} {arrival : τ}
    (meets : client.MeetsAlike name rename store (.call asked delivery arrival)) (now : τ) :
    Outcome.Matches (client.SameEnd delivery)
      (client.beginWith (settings.named none) asked store now)
      (client.beginWith (settings.named (some name)) asked store now) := by
  simp only [beginWith]
  cases reads : readQuery asked.query with
  | error cause => exact ⟨rfl, .error _⟩
  | ok document =>
    have own : (settings.named none).cache.custom = none := rfl
    have other : (settings.named (some name)).cache.custom = some name := rfl
    obtain ⟨alike, objects⟩ := meets settings document keeps reads
    simp only [own, other]
    cases alike with
    | query way also same =>
      obtain ⟨held, brought⟩ := objects way
      simp only [way, also]
      exact openQuery_matches leaves apart settings asked same held now brought
    | mutation way also same =>
      simp only [way, also]
      exact openMutation_matches leaves settings asked same store delivery
    | pass way also =>
      simp only [way, also]
      exact ⟨rfl, .ok (.refl delivery _)⟩

/-- The first step of a call does the same with and without the name. -/
private theorem begin_matches (leaves : client.filing.custom = some name)
    (apart : KeepsApart rename) {asked : Call} {store : Store τ} {delivery : Delivery} {arrival : τ}
    (meets : client.MeetsAlike name rename store (.call asked delivery arrival)) (now : τ) :
    Outcome.Matches (client.SameEnd delivery) ((client.named none).begin asked store now)
      ((client.named (some name)).begin asked store now) := by
  have opened (custom : Option String) : (client.named custom).begin asked store now =
      match (client.settings.named custom).withOptions client.homes asked.options with
      | .error issues => ⟨[], store, .error (.invalidOptions issues)⟩
      | .ok settings => client.beginWith settings asked store now := rfl
  rw [opened, opened]
  obtain ⟨checked, kept | replaced⟩ :=
    Settings.withOptions_cases client.settings client.homes asked.options
  · rw [kept, kept]
    cases checked with
    | error issues => exact ⟨rfl, .error _⟩
    | ok settings => exact beginWith_matches leaves apart kept meets now
  · rw [replaced, replaced]
    exact matches_refl delivery _

/-- One event is seen alike, and leaves the same world. -/
theorem step_named (leaves : client.filing.custom = some name) (apart : KeepsApart rename)
    (world : World τ) {event : StoreEvent τ} (meets : client.MeetsAlike name rename world.store event) :
    (client.named none).step world event = (client.named (some name)).step world event := by
  cases event with
  | write batch => rfl
  | file deposit => rfl
  | clear => rfl
  | clock now => rfl
  | call asked delivery arrival =>
    have first := begin_matches leaves apart meets world.now
    simp only [step]
    generalize (client.named none).begin asked world.store world.now = one at first ⊢
    generalize (client.named (some name)).begin asked world.store world.now = two at first ⊢
    obtain ⟨notices, store, result⟩ := one
    obtain ⟨others, after, ended⟩ := two
    obtain ⟨same, related⟩ := first
    cases same
    cases related with
    | error cause => rfl
    | @ok opening reopening same =>
      have last := same.finish store arrival
      have seen := last.result_eq
      have left := last.store
      change (Seen.answer (some opening.request)
          (client.finish opening (delivery.through opening.request) store arrival).result,
        (⟨(client.finish opening (delivery.through opening.request) store arrival).store, arrival⟩ :
          World τ)) = _
      rw [seen, left, same.request]
      rfl

/-- A sequence of events at each of which it makes no difference whether a client has the name. -/
def MeetsAllAlike (client : Client τ) (name : String) (rename : String → String) :
    World τ → List (StoreEvent τ) → Prop
  | _, [] => True
  | world, event :: rest => client.MeetsAlike name rename world.store event ∧
      client.MeetsAllAlike name rename ((client.named none).step world event).2 rest

/-- Such a sequence is seen alike, and leaves the same world. -/
theorem steps_named (leaves : client.filing.custom = some name) (apart : KeepsApart rename)
    {world : World τ} {events : List (StoreEvent τ)}
    (meets : client.MeetsAllAlike name rename world events) :
    (client.named none).steps world events = (client.named (some name)).steps world events := by
  induction events generalizing world with
  | nil => rfl
  | cons event rest ih =>
    obtain ⟨own, others⟩ := meets
    have later := ih others
    rw [steps, steps, ← step_named leaves apart world own]
    generalize (client.named none).step world event = result at later ⊢
    obtain ⟨seen, next⟩ := result
    simp only at later ⊢
    rw [later]

end Client

/-- A name that adds nothing makes no difference in any sequence. -/
theorem AddsNothing.meetsAllAlike {τ : Type} [Instant τ] {client : Client τ} {name : String}
    (adds : AddsNothing name) (world : World τ) (events : List (StoreEvent τ)) :
    client.MeetsAllAlike name id world events := by
  induction events generalizing world with
  | nil => trivial
  | cons event rest ih =>
    refine ⟨?_, ih _⟩
    cases event with
    | call asked delivery arrival =>
      intro settings document _ _
      rw [adds.compile_eq]
      exact ⟨.refl _, fun _ => ⟨fun _ _ _ => adds.identifiesAlike _,
        fun _ _ => adds.identifiesAlike _⟩⟩
    | _ => trivial

/-! ## Where nothing has the name -/

/-- Nothing stands under a name anywhere in a value, or only null does. -/
def Json.Silent (name : String) (value : Json) : Prop :=
  ∀ path inner, value.Reaches (path ++ [name]) inner → inner = .null

/-- A name under which nothing stands identifies nothing. -/
theorem Json.Silent.identifiesAlike {name : String} {value : Json} (silent : value.Silent name) :
    value.IdentifiesAlike name id := by
  intro path fields reached
  rw [Option.map_id, id_eq, entityIdOf, entityIdOf, identifierNames, identifierNames]
  split
  · rfl
  · rw [List.findSome?_cons]
    cases found : OrderedMap.get? fields name with
    | none => rfl
    | some inner =>
      rw [silent path inner (reached.trans (.field found (.here _)))]

mutual

/-- The names of all fields in a value. -/
def Json.fieldNames : Json → List String
  | .array items => fieldNamesOf items
  | .object fields => fieldNamesIn fields
  | _ => []

def Json.fieldNamesOf : List Json → List String
  | [] => []
  | item :: rest => item.fieldNames ++ fieldNamesOf rest

def Json.fieldNamesIn : List (String × Json) → List String
  | [] => []
  | (name, value) :: rest => name :: (value.fieldNames ++ fieldNamesIn rest)

end

theorem Json.mem_fieldNames_of_reaches {value inner : Json} {path : List String}
    (reaches : value.Reaches path inner) : ∀ name ∈ path, name ∈ value.fieldNames := by
  have field {fields : List (String × Json)} {key : String} {value : Json}
      (found : OrderedMap.get? fields key = some value) :
      key ∈ fieldNamesIn fields ∧ ∀ name ∈ value.fieldNames, name ∈ fieldNamesIn fields := by
    induction fields with
    | nil => cases found
    | cons entry rest ih =>
      obtain ⟨present, own⟩ := entry
      rw [OrderedMap.get?] at found
      rw [fieldNamesIn]
      split at found
      · rename_i same
        cases found
        exact ⟨same ▸ List.mem_cons_self,
          fun name member => List.mem_cons_of_mem _ (List.mem_append_left _ member)⟩
      · obtain ⟨later, inside⟩ := ih found
        exact ⟨List.mem_cons_of_mem _ (List.mem_append_right _ later),
          fun name member => List.mem_cons_of_mem _ (List.mem_append_right _ (inside name member))⟩
  have item {items : List Json} {inner : Json} (member : inner ∈ items) :
      ∀ name ∈ inner.fieldNames, name ∈ fieldNamesOf items := by
    intro name inside
    induction items with
    | nil => cases member
    | cons first rest ih =>
      rw [fieldNamesOf, List.mem_append]
      rcases List.mem_cons.mp member with rfl | later
      · exact .inl inside
      · exact .inr (ih later)
  induction reaches with
  | here => exact fun name member => absurd member List.not_mem_nil
  | field found below ih =>
    obtain ⟨own, inside⟩ := field found
    intro name member
    rcases List.mem_cons.mp member with rfl | later
    · exact own
    · exact inside name (ih name later)
  | item member below ih => exact fun name inside => item member name (ih name inside)

/-- Nothing stands under a name that no field has. -/
theorem Json.silent_of_not_mem {name : String} {value : Json} (absent : name ∉ value.fieldNames) :
    value.Silent name := fun path _ reaches =>
  absurd (mem_fieldNames_of_reaches reaches name (by simp)) absent

section Silent
variable {τ : Type} [Instant τ] {name : String}

/-- Nothing stands under a name in any record that is held. -/
def Store.Silent (store : Store τ) (name : String) : Prop :=
  ∀ key record, store.record? key = some record → (Json.object record.data).Silent name

/-- An event that brings nothing under a name, and does not use the name in a document. -/
def StoreEvent.Silent (name : String) : StoreEvent τ → Prop
  | .write _ => False
  | .file deposit => deposit.data.Silent name
  | .clear => True
  | .clock _ => True
  | .call asked delivery _ =>
    (∀ document, readQuery asked.query = .ok document →
      (document.compile none).Alike (document.compile (some name))) ∧
    ∀ answer, delivery.answer asked.endpoint = .ok answer → (Client.dataOf answer).Silent name

omit [Instant τ] in
/-- Nothing is left when a store has been cleared. -/
theorem Store.silent_of_clear {store after : Store τ} (cleared : store.clear = .ok after) :
    after.Silent name := by
  intro key record found
  cases store with
  | memory state =>
    cases cleared
    cases found
  | tables state =>
    cases state with
    | none => cases cleared
    | some state =>
      cases cleared
      cases found

/-- Filing an answer that brings nothing under the name leaves a store as silent as it was. -/
theorem Store.Silent.deposit {store after : Store τ} (silent : store.Silent name)
    {settings : StoreSettings τ} {now : τ} {deposit : Deposit τ} {batch : Batch τ}
    (brings : deposit.data.Silent name)
    (filed : store.deposit settings now deposit = .ok (after, batch)) : after.Silent name := by
  obtain ⟨made, written⟩ := Store.deposit_writes filed
  intro key record found path inner reaches
  obtain ⟨⟨old, held, reached⟩, _⟩ | ⟨place, _, brought⟩ := Store.write_origin
    (Filing.batchOf_entities made) written found (by simp) reaches
  · exact silent key old held path inner reached
  · obtain ⟨occurrence, _, _, reached, field, rest, middle, same, carried, below⟩ := brought
    have own : OrderedMap.get? occurrence.object field = some middle := by
      rw [Occurrence.carried?] at carried
      split at carried
      · exact carried
      · cases carried
    have whole : Json.Reaches (.object (objectFields (some deposit.data))) (place ++ path ++ [name])
        inner := by
      rw [List.append_assoc, same]
      exact reached.trans (.field own below)
    obtain ⟨data, given, reaches⟩ := Json.reaches_objectFields (by simp) whole
    cases given
    exact brings _ inner reaches

namespace Client
variable {client : Client τ}

private theorem file_silent {store : Store τ} (silent : store.Silent name)
    {deposit : Json → Deposit τ} (keeps : ∀ data, (deposit data).data = data) {answer : Answer}
    (brings : (dataOf answer).Silent name) (now : τ) :
    (client.file deposit answer store now).store.Silent name := by
  rw [file]
  split
  · exact silent
  · rename_i filed
    exact silent.deposit (by rwa [keeps]) filed

/-- A plan that files nothing but the data of the answer. -/
private def FilesData (plan : Plan τ) : Prop :=
  ∀ deposit, plan.deposit? = some deposit → ∀ data, (deposit data).data = data

private theorem finish_silent {store : Store τ} (silent : store.Silent name) {opening : Opening τ}
    (keeps : FilesData opening.plan) {delivery : Delivery}
    (brings : ∀ answer, delivery.answer opening.request.endpoint = .ok answer →
      (dataOf answer).Silent name) (now : τ) :
    (client.finish opening delivery store now).store.Silent name := by
  obtain ⟨request, plan⟩ := opening
  rw [finish]
  cases delivered : delivery.answer request.endpoint with
  | error cause => exact silent
  | ok answer =>
    have filed (deposit : Json → Deposit τ) (plans : plan.deposit? = some deposit) :
        (client.file deposit answer store now).store.Silent name :=
      file_silent silent (keeps deposit plans) (brings answer delivered) now
    cases plan with
    | pass => exact silent
    | wrap => exact silent
    | insert deposit mutation =>
      have own := filed deposit rfl
      simp only [carryOut]
      split <;> rename_i same <;> rw [same] at own <;> exact own
    | query deposit prototype custom cached =>
      have own := filed deposit rfl
      simp only [carryOut]
      split <;> rename_i same <;> rw [same] at own <;> exact own

/-- A first step that brings nothing under the name, and sends a request of the call whose answer
is all that is filed. -/
private structure OpensSilently (name : String) (asked : Call) (outcome : Outcome τ (Opening τ)) :
    Prop where
  store : outcome.store.Silent name
  opening : ∀ opening, outcome.result = .ok opening →
    opening.request.endpoint = asked.endpoint ∧ FilesData opening.plan

omit [Instant τ] in
private theorem OpensSilently.failed {asked : Call} {notices : List Notice} {store : Store τ}
    {cause : CallError} (silent : store.Silent name) :
    OpensSilently name asked ⟨notices, store, .error cause⟩ := ⟨silent, nofun⟩

omit [Instant τ] in
private theorem OpensSilently.opened {asked : Call} {notices : List Notice} {store : Store τ}
    {settings : Settings} {method : String} {plan : Plan τ} (silent : store.Silent name)
    (keeps : FilesData plan) :
    OpensSilently name asked ⟨notices, store, .ok ⟨request settings asked method, plan⟩⟩ :=
  ⟨silent, fun _ same => Except.ok.inj same ▸ ⟨rfl, keeps⟩⟩

omit [Instant τ] in
private theorem openCleared_silent {store : Store τ} (silent : store.Silent name) (asked : Call)
    (settings : Settings) (notices : List Notice) (method : String) :
    OpensSilently name asked
      (client.openCleared notices ⟨request settings asked method, .wrap⟩ store) := by
  rw [openCleared]
  cases cleared : store.clear with
  | error cause => exact .failed silent
  | ok after => exact .opened (Store.silent_of_clear cleared) (by rintro _ ⟨⟩)

private theorem begin_silent {store : Store τ} (silent : store.Silent name) (asked : Call) (now : τ) :
    OpensSilently name asked (client.begin asked store now) := by
  have filing (settings : Settings) (prototype : Prototype) (fromMutation : Bool) (data : Json) :
      (deposit (τ := τ) settings asked prototype fromMutation data).data = data := rfl
  rw [begin]
  split
  · exact .failed silent
  · split
    · exact .failed silent
    · simp only
      split
      · rw [openQuery]
        split
        · exact .failed silent
        · refine .opened silent ?_
          rintro _ ⟨⟩
          exact filing _ _ _
      · rw [openMutation]
        split
        · exact .failed silent
        · exact openCleared_silent silent asked _ _ _
        · simp only
          split
          · refine .opened silent ?_
            rintro _ ⟨⟩
            exact filing _ _ _
          · exact openCleared_silent silent asked _ _ _
      · exact .opened silent (by rintro _ ⟨⟩)

/-- An event that brings nothing under the name leaves nothing under it. -/
theorem step_silent {world : World τ} (silent : world.store.Silent name) {event : StoreEvent τ}
    (brings : event.Silent name) : (client.step world event).2.store.Silent name := by
  cases event with
  | write batch => exact brings.elim
  | file deposit =>
    rw [step]
    split
    · exact silent
    · rename_i filed
      exact silent.deposit brings filed
  | clear =>
    rw [step]
    split
    · exact silent
    · rename_i cleared
      exact Store.silent_of_clear cleared
  | clock now => exact silent
  | call asked delivery arrival =>
    obtain ⟨store, opens⟩ : OpensSilently name asked (client.begin asked world.store world.now) :=
      begin_silent silent asked world.now
    cases begun : (client.begin asked world.store world.now).result with
    | error cause => rwa [step_of_failed begun]
    | ok opening =>
      obtain ⟨endpoint, keeps⟩ := opens opening begun
      rw [step_of_begun begun]
      refine finish_silent store keeps (fun answer delivered => ?_) arrival
      exact brings.2 answer (endpoint ▸ Delivery.answer_of_through delivered)

/-- Where nothing has the name, it makes no difference in any sequence of events. -/
theorem meetsAllAlike_of_silent {world : World τ} (silent : world.store.Silent name)
    {events : List (StoreEvent τ)} (brings : ∀ event ∈ events, event.Silent name) :
    client.MeetsAllAlike name id world events := by
  induction events generalizing world with
  | nil => trivial
  | cons event rest ih =>
    obtain ⟨own, others⟩ := List.forall_mem_cons.mp brings
    refine ⟨?_, ih (step_silent silent own) others⟩
    cases event with
    | call asked delivery arrival =>
      intro settings document _ reads
      obtain ⟨alike, objects⟩ := own
      refine ⟨alike document reads, fun _ => ⟨fun key record held => ?_, fun answer delivered => ?_⟩⟩
      · exact (silent key record held).identifiesAlike
      · exact (objects answer delivered).identifiesAlike
    | _ => trivial

end Client
end Silent

/-! ## Names for which the clients never differ -/

/-- A call, or time that goes by between calls. -/
def StoreEvent.IsCall {τ : Type} : StoreEvent τ → Prop
  | .call .. => True
  | .clock _ => True
  | _ => False

/-- Over no store that has the name, in no sequence of calls, it makes a difference whether a
client has it too. -/
def NeverMatters (τ : Type) [Instant τ] (name : String) : Prop :=
  ∀ client : Client τ, client.filing.custom = some name →
    ∀ (world : World τ) (events : List (StoreEvent τ)), (∀ event ∈ events, event.IsCall) →
      (client.named none).steps world events = (client.named (some name)).steps world events

namespace Client
variable {τ : Type} [Instant τ]

/-- A query whose answer can be filed is answered with what completes it. -/
private theorem step_query {client : Client τ} {asked : Call} {settings : Settings}
    {document : Document} (queries : client.Queries asked settings document)
    (unmarked : document.Unmarked) {world : World τ} (ready : world.store.Open)
    {cached : OrderedMap String (List (Record τ))}
    (looked : lookupRoots world.store world.now (client.lookupName settings)
      (document.expanded settings.cache.custom) = .ok cached) {delivery : Delivery}
    (through : delivery.through (request settings asked "POST") = delivery) {answer : Answer}
    (delivered : delivery.answer asked.endpoint = .ok answer) {fields : OrderedMap String Json}
    (read : dataFields (dataOf answer) = .ok fields) (arrival : τ) :
    (client.step world (.call asked delivery arrival)).1 =
      .answer (some (request settings asked "POST"))
        ((complete (document.expanded settings.cache.custom) settings.cache.custom cached
          answer).mapError .malformed) := by
  obtain ⟨⟨after, batch⟩, stored⟩ : ∃ result, world.store.deposit client.filing arrival
      (deposit settings asked (document.expanded settings.cache.custom) false (dataOf answer)) =
        .ok result :=
    Store.deposit_of_ready ready (fun custom => unmarked.expanded_ready
      (Document.clear_of_route (by simp [queries.eligible])) custom) read
  have endpoint : (request settings asked "POST").endpoint = asked.endpoint := rfl
  rw [step_of_begun ((begin_ok_iff queries).mpr ⟨cached, looked, rfl⟩), begin_store queries]
  simp only [queryPlan, finish, through, endpoint, delivered, carryOut, file, stored]

end Client

/-! A record of two identifiers, of which one stands under the name. -/
namespace TwoIdentifiers
variable {τ : Type} [Instant τ] (name : String)

def client : Client τ := ⟨.standard, ⟨"", []⟩, ⟨Instant.ofSeconds 600, some name⟩, .memory⟩

def data : OrderedMap String Json := [("id", .int 2), (name, .int 1), ("name", .string "Peru")]

def record : Record τ := ⟨"countries--2", "countries", "2", data name, false, none⟩

def world : World τ :=
  ⟨.memory ⟨[("countries--2", record name)],
    [(.text "countries", ⟨.text "countries", .text "countries", ["countries--2"], false, none⟩)]⟩,
    Instant.ofSeconds 0⟩

def event : StoreEvent τ := .call Countries.call Countries.partly (Instant.ofSeconds 1)

theorem compiled : Countries.document.compile none = Countries.document.compile (some name) := by
  have visits : Countries.document.visits = [.operation .query [], .field ⟨none, "countries", [], []⟩,
      .selectionSet ["id", "name"], .field ⟨none, "id", [], []⟩, .endField,
      .field ⟨none, "name", [], []⟩, .endField, .endField] := rfl
  have addressed : hasIdentifier ["id", "name"] none = true := by decide
  refine Document.compile_named ?_
  rw [visits]
  simp [Visit.Ignores, addressed]

variable {name} {custom : Option String} (same : custom = none ∨ custom = some name)
include same

theorem queries : ((client name : Client τ).named custom).Queries Countries.call
    (Settings.standard.named custom) Countries.document where
  options := rfl
  reads := Countries.queries.reads
  eligible := by
    have eligible : (Countries.document.compile none).route = .query := Countries.queries.eligible
    rcases same with rfl | rfl
    · exact eligible
    · rwa [compiled name] at eligible

theorem expanded : Countries.document.expanded custom = [("countries", Countries.node)] := by
  have plain : Countries.document.expanded none = [("countries", Countries.node)] := by rfl
  rcases same with rfl | rfl
  · exact plain
  · rwa [Document.expanded, ← compiled name]

omit same in
theorem delivered : Countries.partly.answer Countries.call.endpoint =
    .ok [("data", .object [("countries", .array [.object [("id", .int 1)]])])] :=
  except_ok_of_toOption (by decide +kernel)

/-- Both clients ask, and complete what is answered from the record. -/
theorem answered : (((client name : Client τ).named custom).step (world name) event).1 =
    .answer (some (Client.request (Settings.standard.named custom) Countries.call "POST"))
      ((Client.complete [("countries", Countries.node)] custom
        [("countries", [(record name : Record τ)])]
        [("data", .object [("countries", .array [.object [("id", .int 1)]])])]).mapError
          .malformed) := by
  have request : Client.request (Settings.standard.named custom) Countries.call "POST" =
      Countries.opening.request := rfl
  have through : Countries.partly.through Countries.opening.request = Countries.partly := by
    rw [Delivery.through, Refill.unrefused]
  have looked : Client.lookupRoots (world name : World τ).store (world name : World τ).now
      (((client name : Client τ).named custom).lookupName (Settings.standard.named custom))
      (Countries.document.expanded (Settings.standard.named custom).cache.custom) =
        .ok [("countries", [record name])] := by
    have own : (Settings.standard.named custom).cache.custom = custom := rfl
    rw [own, expanded same]
    rfl
  have read : dataFields (Client.dataOf
      [("data", .object [("countries", .array [.object [("id", .int 1)]])])]) =
        .ok [("countries", .array [.object [("id", .int 1)]])] := rfl
  have done := Client.step_query (queries same) Countries.unmarked
    (show (world name : World τ).store.Open by simp [world, Store.Open]) looked
    (request ▸ through) delivered read (Instant.ofSeconds 1)
  have own : (Settings.standard.named custom).cache.custom = custom := rfl
  rw [own, expanded same] at done
  exact done

omit same in
private theorem mergeFields_node (fields : OrderedMap String Json) :
    Entry.mergeFields custom [("id", .int 1)] fields Countries.node =
      [("id", .int 1), ("name", (OrderedMap.get? fields "name").getD .null)] := by
  have fields : isReserved "id" = false ∧ isReserved "name" = false := by decide
  have marks : isReserved "__id" = true ∧ isReserved "__type" = true ∧
      isReserved "__alias" = true ∧ isReserved "__args" = true := by decide
  simp [Entry.mergeFields, Countries.node, fields, marks, Entry.merge, OrderedMap.get?]

omit same [Instant τ] in
/-- The name of the country is that of the record with which it is paired. -/
theorem completed (record : Record τ) {partner : Option Json} (paired : pairedItem? custom
      (identifiedItems custom [.object record.data]) [("id", .int 1)] = partner) :
    Client.complete [("countries", Countries.node)] custom [("countries", [record])]
        [("data", .object [("countries", .array [.object [("id", .int 1)]])])] =
      .ok [("data", .object [("countries", .array [.object [("id", .int 1),
        ("name", (OrderedMap.get? (objectFields partner) "name").getD .null)]])])] := by
  have root : Countries.node.merge custom (some (.array [.object [("id", .int 1)]]))
        (cachedRoot Countries.node [record]) =
      .array [.object [("id", .int 1),
        ("name", (OrderedMap.get? (objectFields partner) "name").getD .null)]] := by
    have cached : cachedRoot Countries.node [record] = some (.array [.object record.data]) := rfl
    rw [cached, Node.merge, mergeRelation, mergeItems, List.map_singleton]
    simp only [listItems, paired, Node.mergeObjects]
    simp only [objectFields, mergeFields_node]
  have read : Client.dataOf [("data", .object [("countries", .array [.object [("id", .int 1)]])])] =
      .object [("countries", .array [.object [("id", .int 1)]])] := rfl
  have fresh : OrderedMap.get? [("countries", Json.array [.object [("id", .int 1)]])] "countries" =
      some (.array [.object [("id", .int 1)]]) := rfl
  have held : (OrderedMap.get? [("countries", [record])] "countries").getD [] = [record] := rfl
  simp only [Client.complete, List.isEmpty_cons, Bool.false_eq_true, ↓reduceIte, read, dataFields,
    bind, Except.bind, Prototype.merge, List.foldl_cons, List.foldl_nil, fresh, held, root]
  rfl

omit same in
theorem unpaired : pairedItem? none (identifiedItems none [.object (data name)]) [("id", .int 1)] =
    none := by
  have two : entityIdOf (data name) none = some "2" := rfl
  have one : entityIdOf [("id", .int 1)] none = some "1" := rfl
  simp [pairedItem?, identifiedItems, Json.fields?, two, one, OrderedMap.ofList, OrderedMap.overlay,
    OrderedMap.insert, OrderedMap.get?]

omit same in
theorem paired (tells : ¬AddsNothing name) :
    pairedItem? (some name) (identifiedItems (some name) [.object (data name)]) [("id", .int 1)] =
      some (.object (data name)) := by
  obtain ⟨given, other⟩ := not_or.mp tells
  have names : identifierNames (some name) = name :: conventionalNames := by
    simp [identifierNames, given]
  have one : entityIdOf (data name) (some name) = some "1" := by
    have own : OrderedMap.get? (data name) name = some (.int 1) := by
      simp [data, OrderedMap.get?, Ne.symm other]
    rw [entityIdOf, names, List.findSome?_cons, own]
    rfl
  have plain : entityIdOf [("id", .int 1)] (some name) = some "1" := by
    have absent : OrderedMap.get? [("id", Json.int 1)] name = none := by
      simp [OrderedMap.get?, Ne.symm other]
    rw [entityIdOf, names, List.findSome?_cons, absent]
    rfl
  simp [pairedItem?, identifiedItems, Json.fields?, one, plain, OrderedMap.ofList,
    OrderedMap.overlay, OrderedMap.insert, OrderedMap.get?]

omit same in
/-- The record has a name. -/
theorem named_data : ∃ value, OrderedMap.get? (data name) "name" = some value ∧ value ≠ .null := by
  by_cases same : name = "name"
  · exact ⟨.int 1, by simp [data, OrderedMap.get?, same], by simp⟩
  · exact ⟨.string "Peru", by simp [data, OrderedMap.get?, same], by simp⟩

omit same in
/-- Only with the name the client pairs the country with the record. -/
theorem step_ne (tells : ¬AddsNothing name) :
    (((client name : Client τ).named none).step (world name) event).1 ≠
      (((client name : Client τ).named (some name)).step (world name) event).1 := by
  intro seen
  obtain ⟨value, held, nonnull⟩ :
      ∃ value, OrderedMap.get? (data name) "name" = some value ∧ value ≠ .null := named_data
  rw [answered (.inl rfl), answered (.inr rfl), completed (record name) unpaired,
    completed (record name) (paired tells)] at seen
  simp [Except.mapError, objectFields, held] at seen
  exact nonnull seen.2.symm

end TwoIdentifiers

/-- A client without a name and one with the name of the store behave alike in every sequence of
events in which the document of each call is read alike, and all objects of the answers and the
store have the same identifiers with the name as without it, but for a renaming. For all
sequences of calls they do so just if the name adds nothing: it is empty, or the first of the
conventional ones. -/
theorem Client.named_alike {τ : Type} [Instant τ] (name : String) :
    (∀ (client : Client τ) (rename : String → String), client.filing.custom = some name →
      KeepsApart rename → ∀ (world : World τ) (events : List (StoreEvent τ)),
        client.MeetsAllAlike name rename world events →
        (client.named none).steps world events = (client.named (some name)).steps world events) ∧
      (NeverMatters τ name ↔ AddsNothing name) := by
  refine ⟨fun client rename leaves apart world events => steps_named leaves apart, ?_, ?_⟩
  · intro never
    by_contra tells
    have single (client : Client τ) (world : World τ) (event : StoreEvent τ) :
        (client.steps world [event]).1 = [(client.step world event).1] := rfl
    have same := congrArg Prod.fst (never (TwoIdentifiers.client name) rfl
      (TwoIdentifiers.world name) [TwoIdentifiers.event]
      (by simp [TwoIdentifiers.event, StoreEvent.IsCall]))
    rw [single, single] at same
    exact TwoIdentifiers.step_ne tells (List.head_eq_of_cons_eq same)
  · intro adds client leaves world events _
    exact steps_named leaves .id (adds.meetsAllAlike world events)

/-! ## A name that no answer has -/

namespace Unused

def world : World Int := ⟨.memory .empty, 0⟩

/-- The countries are answered in full, and then without their names. -/
def events : List (StoreEvent Int) :=
  [.call Countries.call Countries.delivery 1, .clock 2, .call Countries.call Countries.partly 3]

theorem silent : ∀ event ∈ events, event.Silent "isbn" := by
  have alike (document : Document) (reads : readQuery Countries.call.query = .ok document) :
      (document.compile none).Alike (document.compile (some "isbn")) := by
    cases Except.ok.inj (Countries.queries.reads.symm.trans reads)
    rw [TwoIdentifiers.compiled "isbn"]
    exact .refl _
  simp only [events, List.forall_mem_cons]
  refine ⟨⟨alike, fun answer delivered => ?_⟩, trivial, ⟨alike, fun answer delivered => ?_⟩, by simp⟩
  · cases Except.ok.inj (Countries.delivered.symm.trans delivered)
    exact Json.silent_of_not_mem (by decide)
  · cases Except.ok.inj (TwoIdentifiers.delivered.symm.trans delivered)
    exact Json.silent_of_not_mem (by decide)

end Unused

open Unused in
/-- Where neither documents nor answers know of a name it makes no difference, although it does
in other sequences of calls. -/
theorem Client.named_alike_countries :
    ((TwoIdentifiers.client "isbn" : Client Int).named none).steps world events =
        ((TwoIdentifiers.client "isbn").named (some "isbn")).steps world events ∧
      ¬NeverMatters Int "isbn" := by
  obtain ⟨alike, never⟩ := Client.named_alike (τ := Int) "isbn"
  have cleared : (Store.memory .empty : Store Int).clear = .ok world.store := rfl
  have empty : world.store.Silent "isbn" := Store.silent_of_clear cleared
  refine ⟨alike _ id rfl .id world events (Client.meetsAllAlike_of_silent empty silent), ?_⟩
  rw [never]
  simp [AddsNothing]

/-! ## Objects that can be addressed by the name only -/

namespace Books

def call : Call :=
  ⟨"https://api.example.test/graphql", "\x7b books \x7b isbn title \x7d \x7d", [], [], [], []⟩

def document : Document :=
  ⟨[.operation ⟨.query, none, [], [], [.relation ⟨none, "books", [], []⟩
    [.leaf ⟨none, "isbn", [], []⟩, .leaf ⟨none, "title", [], []⟩]]⟩]⟩

def delivery : Delivery :=
  .answered 200 (Json.print Json.bodyStyle (.object [("data", .object [("books",
    .array [.object [("isbn", .int 7), ("title", .string "Rayuela")]])])]))

def record : Record Int :=
  ⟨"books--7", "books", "7", [("isbn", .int 7), ("title", .string "Rayuela")], false, some 601⟩

set_option maxRecDepth 4000 in
theorem reads : readQuery call.query = .ok document := by cbv

theorem through (custom : Option String) :
    delivery.through (Client.request (Settings.standard.named custom) call "POST") = delivery := by
  have plain : Client.request (Settings.standard.named custom) call "POST" =
      Client.request .standard call "POST" := rfl
  have same : (Client.request .standard call "POST").refusal? = Spread.request.refusal? := rfl
  rw [plain, Delivery.through, same, Spread.unrefused]

/-- Without the name the document cannot be cached, and nothing is kept. -/
theorem passed : (((TwoIdentifiers.client "isbn" : Client Int).named none).step Unused.world
    (.call call delivery 1)).2.store = .memory .empty := by
  have route : (document.compile none).route = .pass (some "missing_identifier") := by decide
  have options : ((TwoIdentifiers.client "isbn" : Client Int).named none).settings.withOptions
      ((TwoIdentifiers.client "isbn" : Client Int).named none).homes call.options =
        .ok (Settings.standard.named none) := rfl
  have unnamed : (Settings.standard.named none).cache.custom = none := rfl
  simp only [Client.step, Client.begin, options, reads, unnamed, route, Unused.world, Client.finish]
  split <;> rfl

theorem queries : ((TwoIdentifiers.client "isbn" : Client Int).named (some "isbn")).Queries call
    (Settings.standard.named (some "isbn")) document := ⟨rfl, reads, by decide⟩

/-- With the name it can. -/
theorem kept : (((TwoIdentifiers.client "isbn" : Client Int).named (some "isbn")).step Unused.world
    (.call call delivery 1)).2.store.lookup 1 "books" = .ok [record] := by
  rw [Client.step_call queries Unused.world (show Client.lookupRoots _ _ _ _ = .ok [] from
    except_ok_of_toOption (by decide +kernel)) delivery 1, through]
  exact except_ok_of_toOption (by decide +kernel)

end Books

open Books in
/-- Over a store that has the name, only the client that has it too keeps the books. -/
theorem Client.nameless_keeps_no_books :
    (((TwoIdentifiers.client "isbn" : Client Int).named none).step Unused.world
        (.call call delivery 1)).2.store.lookup 1 "books" = .ok [] ∧
      (((TwoIdentifiers.client "isbn" : Client Int).named (some "isbn")).step Unused.world
        (.call call delivery 1)).2.store.lookup 1 "books" = .ok [record] := by
  refine ⟨?_, kept⟩
  rw [passed]
  rfl

end GraphCache
