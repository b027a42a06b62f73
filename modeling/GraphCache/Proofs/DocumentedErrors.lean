import GraphCache.Proofs.Filings
import GraphCache.Proofs.Routing
import GraphCache.Proofs.UnfileableData

/-! Which errors a call can end with when it is answered. An answer's data must have fields
where something is to be filed, and nothing may take the place of the marks that are read:
the types of the nodes and the arguments of the roots. A document that keeps these marks ends
with a result or with a failure of the cache's own, whatever the store holds and whatever the
caller maps, exactly where the data of the answer can be read. In any other document something
can go wrong in a way that is documented nowhere. -/
namespace GraphCache

/-! ## Results of calls -/

/-- A result, or an error that is a failure of the cache's own. -/
def Documented {α : Type} (result : Except CallError α) : Prop :=
  ∀ error, result = .error error → ∃ cause, error = .failure cause

theorem documented_ok {α : Type} (value : α) : Documented (.ok value) := nofun

theorem documented_error_iff {α : Type} (error : CallError) :
    Documented (.error error : Except CallError α) ↔ ∃ cause, error = .failure cause := by
  simp [Documented]

theorem not_documented_malformed {α : Type} (cause : Malformed) :
    ¬Documented (.error (.malformed cause) : Except CallError α) := by
  simp [documented_error_iff]

/-- Data that is an object, or that counts as nothing. -/
def Readable (data : Json) : Prop := ∃ fields, dataFields data = .ok fields

/-- Data is only filed if it can be read, or if there is no root to read it for. -/
theorem Filing.readable_of_batchOf {τ : Type} {filing : Filing τ} {prototype : Prototype}
    {data : Json} {batch : Batch τ} (filed : filing.batchOf prototype data = .ok batch) :
    Readable data ∨ prototype = [] := by
  cases prototype with
  | nil => exact .inr rfl
  | cons root rest =>
    simp only [batchOf, List.isEmpty_cons, Bool.false_eq_true, ↓reduceIte, bind,
      except_bind_ok] at filed
    obtain ⟨fields, read, -⟩ := filed
    exact .inl ⟨fields, read⟩

/-- Memory refuses a label only because of what it is. -/
theorem Store.recall_malformed {τ : Type} [Instant τ] {state : Memory τ} {now : τ} {label : Label}
    {error : StoreError} (failed : (Store.memory state).recall now label = .error error) :
    ∃ cause, error = .malformed cause := by
  cases label with
  | text key => cases failed
  | displaced mark =>
    cases hashed : (Label.displaced mark).hashable with
    | ok label =>
      simp [Store.recall, hashed, Except.mapError, bind, Except.bind, pure, Except.pure] at failed
    | error cause =>
      simp only [Store.recall, hashed, Except.mapError, bind, Except.bind] at failed
      cases failed
      exact ⟨cause, rfl⟩

namespace Client

variable {τ : Type} [Instant τ]

/-- What a call gives if it is answered. Between its two steps the store may have changed. -/
def answered (client : Client τ) (asked : Call) (answer : Answer) (store : Store τ) (now : τ)
    (held : Store τ) (arrival : τ) : Except CallError Answer :=
  (client.begin asked store now).result.bind fun opening =>
    (client.carryOut opening.plan answer held arrival).result

variable {client : Client τ} {asked : Call} {settings : Settings} {document : Document}

/-- Storing an answer succeeds if it can be filed, and is not documented if it cannot. -/
theorem file_documented_iff {held : Store τ} (stays : held.Open) (deposit : Json → Deposit τ)
    (answer : Answer) (arrival : τ) :
    Documented (client.file deposit answer held arrival).result ↔
      ∃ batch, (deposit (dataOf answer)).batchAt client.filing arrival = .ok batch := by
  cases made : (deposit (dataOf answer)).batchAt client.filing arrival with
  | ok batch =>
    obtain ⟨after, stored, -⟩ := Store.deposit_made stays made
    simp [file, stored, documented_ok]
  | error cause =>
    have refused := Store.deposit_malformed held made
    simp [file, refused, CallError.ofStore, not_documented_malformed]

/-- What could be filed can be completed as well. -/
theorem query_documented_iff {held : Store τ} (stays : held.Open) {prototype : Prototype}
    {cached : OrderedMap String (List (Record τ))} (found : prototype = [] → cached = [])
    (custom : Option String) (answer : Answer) (arrival : τ) :
    Documented (client.carryOut
        (.query (deposit settings asked prototype false) prototype custom cached) answer held
        arrival).result ↔
      ∃ batch, (deposit settings asked prototype false (dataOf answer)).batchAt client.filing
        arrival = .ok batch := by
  have filed := client.file_documented_iff stays (deposit settings asked prototype false) answer
    arrival
  rw [← filed, carryOut]
  generalize client.file (deposit settings asked prototype false) answer held arrival =
    outcome at filed ⊢
  cases outcome with
  | mk notices after result =>
    cases result with
    | error cause => simp only [documented_error_iff]
    | ok batch =>
      obtain ⟨returned, completed⟩ : ∃ returned,
          complete prototype custom cached answer = .ok returned := by
        obtain ⟨_, made⟩ := filed.mp (documented_ok _)
        obtain ⟨fields, read⟩ | empty := Filing.readable_of_batchOf made
        · exact complete_ok read prototype custom cached
        · rw [found empty]
          exact ⟨answer, rfl⟩
      simp only [completed]
      exact iff_of_true (documented_ok _) (documented_ok _)

/-! ## The first step -/

/-- A lookup in memory that fails does so because of the labels. -/
theorem lookupRoots_malformed {state : Memory τ} {now : τ} {custom : Option String}
    {prototype : Prototype} {error : CallError}
    (failed : lookupRoots (.memory state) now custom prototype = .error error) :
    ∃ cause, error = .malformed cause := by
  induction prototype with
  | nil => cases failed
  | cons root rest ih =>
    rw [lookupRoots] at failed
    cases named : root.2.queryKey custom with
    | error cause =>
      rw [named] at failed
      cases failed
      exact ⟨cause, rfl⟩
    | ok key =>
      cases recalled : (Store.memory state).recall now key with
      | error fault =>
        obtain ⟨cause, rfl⟩ := Store.recall_malformed recalled
        rw [named] at failed
        simp only [recalled, bind, Except.bind, Except.mapError] at failed
        cases failed
        exact ⟨cause, rfl⟩
      | ok records =>
        cases later : lookupRoots (.memory state) now custom rest with
        | error fault =>
          simp only [named, recalled, later, bind, Except.bind, Except.mapError] at failed
          cases failed
          exact ih later
        | ok others => simp [named, recalled, later, bind, Except.bind, Except.mapError, pure,
            Except.pure] at failed

theorem answered_query (queries : client.Queries asked settings document) (answer : Answer)
    (store : Store τ) (now : τ) (held : Store τ) (arrival : τ) :
    client.answered asked answer store now held arrival =
      (lookupRoots store now (client.lookupName settings)
        (document.expanded settings.cache.custom)).bind fun cached =>
          (client.carryOut (queryPlan settings asked document cached) answer held arrival).result := by
  rw [answered, begin_of_query queries, openQuery, ← Document.expanded]
  cases lookupRoots store now (client.lookupName settings)
    (document.expanded settings.cache.custom) <;> rfl

end Client

/-! ## Documents that keep their marks -/

namespace Client

variable {τ : Type} [Instant τ] {client : Client τ} {asked : Call} {settings : Settings}
  {document : Document}

end Client

namespace Client

variable {τ : Type} [Instant τ] {client : Client τ} {asked : Call} {settings : Settings}
  {document : Document}

section Always
variable (options : client.settings.withOptions client.homes asked.options = .ok settings)
  (reads : readQuery asked.query = .ok document)
  (always : ∀ (mutations fields types : OrderedMap String Json) (answer : Answer)
    (state held : Memory τ) (now arrival : τ), Readable (dataOf answer) →
    Documented (client.answered
      { asked with mutationMap := mutations, fieldMap := fields, typeMap := types } answer
      (.memory state) now (.memory held) arrival))
include options reads always

/-- The roots under which the answer of a query is filed are formed: without a map of fields,
all data can be filed under them. -/
private theorem expanded_formed
    (query : (document.compile settings.cache.custom).route = .query) :
    (document.expanded settings.cache.custom).Formed := by
  let bare : Call := { asked with mutationMap := [], fieldMap := [], typeMap := [] }
  let now : τ := Instant.ofSeconds 0
  have queries : client.Queries bare settings document := ⟨options, reads, query⟩
  have each (answer : Answer) (readable : Readable (dataOf answer)) :
      Documented (client.answered bare answer (.memory .empty) now (.memory .empty) now) :=
    always [] [] [] answer .empty .empty now now readable
  simp only [answered_query queries] at each
  cases looked : lookupRoots (Store.memory .empty) now (client.lookupName settings)
      (document.expanded settings.cache.custom) with
  | error error =>
    obtain ⟨cause, rfl⟩ := lookupRoots_malformed looked
    have documented := each [] ⟨[], rfl⟩
    rw [looked] at documented
    exact absurd documented (not_documented_malformed cause)
  | ok cached =>
    have found : document.expanded settings.cache.custom = [] → cached = [] := by
      intro empty
      rw [empty] at looked
      cases looked
      rfl
    let filing := (deposit settings bare (document.expanded settings.cache.custom) false
      .null).filing client.filing now
    have unmapped : filing.Unmapped := fun name => rfl
    rw [← filing.batchOf_total_iff unmapped]
    intro data
    have documented := each [("data", .object data)] ⟨data, rfl⟩
    rw [looked, Except.bind, queryPlan, query_documented_iff (Store.open_memory _) found] at documented
    exact documented

end Always

/-! ## Calls -/

end Client

/-! ## A list in the place of the data -/

namespace Countries

/-- An answer whose data is a list. -/
def listed : Delivery :=
  .answered 200 (Json.print Json.bodyStyle (.object [("data", .array [.int 1])]))

end Countries

end GraphCache
