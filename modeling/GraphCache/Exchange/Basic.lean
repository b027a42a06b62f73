import GraphCache.Answer.Merge
import GraphCache.Document.Reader
import GraphCache.Exchange.Mutation
import GraphCache.Exchange.Notice
import GraphCache.Exchange.Transport
import GraphCache.Prototype.Compile
import GraphCache.Prototype.Expand
import GraphCache.Settings.Validation
import GraphCache.Store.Basic

/-! One call through the cache. A call has two steps with the request between them.
The first reads the document, looks up what is cached or clears the store, and says
what is to be sent; the second takes the delivery, stores the answer and completes it
from what was looked up. Between the two the store may change through other calls. -/
namespace GraphCache

/-- A client: its settings, how its store files by default, and where it is kept. -/
structure Client (τ : Type) where
  settings : Settings
  homes : Homes
  filing : StoreSettings τ
  place : StorePlace

/-- What a caller asks for. -/
structure Call where
  endpoint : String
  query : String
  mutationMap : OrderedMap String Json
  fieldMap : OrderedMap String Json
  typeMap : OrderedMap String Json
  options : List (String × Tree)

/-- Why a call has no answer. -/
inductive CallError where
  | invalidOptions (issues : List Issue)
  | failure (cause : Failure)
  | malformed (cause : Malformed)
  | refused (cause : Refusal)
  | tooDeep (nesting : Json.Nesting)

def CallError.ofStore : StoreError → CallError
  | .failure cause => .failure cause
  | .malformed cause => .malformed cause

def CallError.ofSend : SendError → CallError
  | .failure cause => .failure cause
  | .refused cause => .refused cause
  | .tooDeep nesting => .tooDeep nesting

/-- What a step leaves behind: notices, the store, and a result or an error. -/
structure Outcome (τ α : Type) where
  notices : List Notice
  store : Store τ
  result : Except CallError α

/-- What is to be done with the answer. -/
inductive Plan (τ : Type) where
  /-- It is given to the caller as it is. -/
  | pass
  /-- Its data and errors are given to the caller. -/
  | wrap
  /-- It is stored as new, then given to the caller. -/
  | insert (deposit : Json → Deposit τ) (mutation : Json)
  /-- It is stored, and completed from the cached records of each root. -/
  | query (deposit : Json → Deposit τ) (prototype : Prototype) (custom : Option String)
      (cached : OrderedMap String (List (Record τ)))

/-- The end of a call's first step. -/
structure Opening (τ : Type) where
  request : Request
  plan : Plan τ

/-! ## The first step -/

/-- Reads a document, or says where it is wrong. -/
def readQuery (query : String) : Except Failure Document :=
  let source := query.toList
  (Document.read source).mapError fun error =>
    .invalidDocument error.message [Document.locate source error.position]

/-- Which way a document takes. -/
inductive Route where
  | query
  | mutation
  | pass (reason : Option String)
deriving DecidableEq, Repr

def Compilation.route (compiled : Compilation) : Route :=
  match compiled.obstacle, compiled.kind with
  | some obstacle, _ => .pass (some obstacle.reason.name)
  | none, some .query => .query
  | none, some .mutation => .mutation
  | none, _ => .pass none

/-- The notices about a compiled document. -/
def Compilation.notices (compiled : Compilation) : List Notice :=
  (compiled.obstacle.map fun obstacle => Notice.ineligible obstacle.reason.name obstacle.path).toList ++
    [.compiled compiled.kindName (OrderedMap.keys compiled.prototype)]

namespace Client

variable {τ : Type} [Instant τ]

def request (settings : Settings) (call : Call) (method : String) : Request :=
  ⟨method, call.endpoint, call.query,
    settings.transport.headers.map fun header => (header.1, .string header.2)⟩

/-- How the answer of a call is filed. -/
def deposit (settings : Settings) (call : Call) (prototype : Prototype) (fromMutation : Bool)
    (data : Json) : Deposit τ where
  prototype := prototype
  data := data
  typeMap := call.typeMap
  fieldMap := if fromMutation then call.mutationMap else call.fieldMap
  fromMutation := fromMutation
  custom := settings.cache.custom
  lifetime := some (Instant.ofSeconds settings.cache.lifetime)

/-- The identifier name under which roots are looked up: that of the settings, else
that of the store. -/
def lookupName (client : Client τ) (settings : Settings) : Option String :=
  givenName? settings.cache.custom <|> client.filing.custom

/-- The cached records of each root that has any. -/
def lookupRoots (store : Store τ) (now : τ) (custom : Option String) :
    Prototype → Except CallError (OrderedMap String (List (Record τ)))
  | [] => .ok []
  | (root, node) :: rest => do
    let key ← (node.queryKey custom).mapError .malformed
    let records ← (store.recall now key).mapError .ofStore
    let others ← lookupRoots store now custom rest
    return if records.isEmpty then others else (root, records) :: others

def openQuery (client : Client τ) (settings : Settings) (call : Call) (compiled : Compilation)
    (store : Store τ) (now : τ) : Outcome τ (Opening τ) :=
  let prototype := Prototype.expand compiled.prototype compiled.fragments
  match lookupRoots store now (client.lookupName settings) prototype with
  | .error error => ⟨compiled.notices, store, .error error⟩
  | .ok cached =>
    let hits := (OrderedMap.keys cached).mergeSort fun left right => decide (left ≤ right)
    ⟨compiled.notices ++ [.lookedUp hits prototype.length], store,
      .ok ⟨request settings call "POST",
        .query (deposit settings call prototype false) prototype settings.cache.custom cached⟩⟩

/-- Clears the store, then opens the request. -/
def openCleared (client : Client τ) (notices : List Notice) (opening : Opening τ) (store : Store τ) :
    Outcome τ (Opening τ) :=
  match store.clear with
  | .error cause => ⟨notices, store, .error (.failure cause)⟩
  | .ok cleared => ⟨notices ++ [.cleared client.place], cleared, .ok opening⟩

/-- A mutation that names exactly one thing deletes it. -/
def invalidationMethod (node : Node) : String :=
  match node.argumentFields with
  | .ok [_] => "DELETE"
  | _ => "POST"

def openMutation (client : Client τ) (settings : Settings) (call : Call) (compiled : Compilation)
    (store : Store τ) : Outcome τ (Opening τ) :=
  match findMutation (mappedNames call.mutationMap) compiled.prototype with
  | .error cause => ⟨compiled.notices, store, .error (.malformed cause)⟩
  | .ok none =>
    let roots := OrderedMap.keys compiled.prototype
    client.openCleared (compiled.notices ++ [.unmapped roots])
      ⟨request settings call "POST", .wrap⟩ store
  | .ok (some (_, node)) =>
    let mutation := node.mutationType
    if isInsertType mutation then
      ⟨compiled.notices, store,
        .ok ⟨request settings call "POST",
          .insert (deposit settings call compiled.prototype true) mutation⟩⟩
    else
      let method := invalidationMethod node
      client.openCleared (compiled.notices ++ [.invalidated mutation method])
        ⟨request settings call method, .wrap⟩ store

/-- The first step of a call. Nothing is sent when it fails. -/
def begin (client : Client τ) (call : Call) (store : Store τ) (now : τ) : Outcome τ (Opening τ) :=
  match client.settings.withOptions client.homes call.options with
  | .error issues => ⟨[], store, .error (.invalidOptions issues)⟩
  | .ok settings =>
    match readQuery call.query with
    | .error cause => ⟨[], store, .error (.failure cause)⟩
    | .ok document =>
      let compiled := document.compile settings.cache.custom
      match compiled.route with
      | .query => client.openQuery settings call compiled store now
      | .mutation => client.openMutation settings call compiled store
      | .pass reason =>
        ⟨compiled.notices ++ [.passedThrough reason], store, .ok ⟨request settings call "POST", .pass⟩⟩

/-! ## The second step -/

/-- The data of an answer. -/
def dataOf (answer : Answer) : Json := (OrderedMap.get? answer "data").getD .null

/-- Data with the errors that came with it. -/
def wrap (data : Json) (answer : Answer) : Answer :=
  ("data", data) :: ((OrderedMap.get? answer "errors").map fun errors => ("errors", errors)).toList

/-- The notices about a request and its delivery. -/
def requestNotices (request : Request) (delivery : Delivery) : List Notice :=
  .requested request.endpoint request.method ::
    match delivery with
    | .failed reason => [.requestFailed request.endpoint reason]
    | .refused _ => []
    | .answered status _ =>
      if isErrorStatus status then [.badStatus request.endpoint status] else []

/-- Stores the data of an answer. -/
def file (client : Client τ) (deposit : Json → Deposit τ) (answer : Answer) (store : Store τ) (now : τ) :
    Outcome τ (Batch τ) :=
  let deposit := deposit (dataOf answer)
  match store.deposit client.filing now deposit with
  | .error error => ⟨[], store, .error (.ofStore error)⟩
  | .ok (filed, batch) =>
    ⟨[.stored batch.entities.length batch.queries.length deposit.fromMutation], filed, .ok batch⟩

/-- What an answer is completed to. Without cached records it stays as it is. -/
def complete (prototype : Prototype) (custom : Option String)
    (cached : OrderedMap String (List (Record τ))) (answer : Answer) : Except Malformed Answer :=
  if cached.isEmpty then .ok answer
  else do
    let fresh ← dataFields (dataOf answer)
    return wrap (.object (prototype.merge custom fresh cached)) answer

/-- Does with an answer what was planned. -/
def carryOut (client : Client τ) (plan : Plan τ) (answer : Answer) (store : Store τ) (now : τ) :
    Outcome τ Answer :=
  match plan with
  | .pass => ⟨[], store, .ok answer⟩
  | .wrap => ⟨[], store, .ok (wrap (dataOf answer) answer)⟩
  | .insert deposit mutation =>
    match client.file deposit answer store now with
    | ⟨notices, filed, .error error⟩ => ⟨notices, filed, .error error⟩
    | ⟨notices, filed, .ok batch⟩ =>
      ⟨notices ++ [.inserted mutation batch.size], filed, .ok (wrap (dataOf answer) answer)⟩
  | .query deposit prototype custom cached =>
    match client.file deposit answer store now with
    | ⟨notices, filed, .error error⟩ => ⟨notices, filed, .error error⟩
    | ⟨notices, filed, .ok _⟩ =>
      ⟨notices, filed, (complete prototype custom cached answer).mapError .malformed⟩

/-- The second step of a call: takes the delivery. Without an answer the store stays
as it is. -/
def finish (client : Client τ) (opening : Opening τ) (delivery : Delivery) (store : Store τ) (now : τ) :
    Outcome τ Answer :=
  let notices := requestNotices opening.request delivery
  match delivery.answer opening.request.endpoint with
  | .error error => ⟨notices, store, .error (.ofSend error)⟩
  | .ok answer =>
    let outcome := client.carryOut opening.plan answer store now
    { outcome with notices := notices ++ outcome.notices }

/-- A call in one go to a server that would deliver this, with the request that was sent,
if one was. -/
def run (client : Client τ) (call : Call) (delivery : Delivery) (store : Store τ) (now : τ) :
    Option Request × Outcome τ Answer :=
  match client.begin call store now with
  | ⟨notices, store, .error error⟩ => (none, ⟨notices, store, .error error⟩)
  | ⟨notices, store, .ok opening⟩ =>
    let outcome := client.finish opening (delivery.through opening.request) store now
    (some opening.request, { outcome with notices := notices ++ outcome.notices })

end Client
end GraphCache
