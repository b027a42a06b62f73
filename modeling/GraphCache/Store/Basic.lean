import GraphCache.Failure
import GraphCache.Record.Filing
import GraphCache.Store.Memory
import GraphCache.Store.Table

/-! A cache store: the records and index entries of earlier answers, in memory or
in tables. Tables can be missing, and then every access that needs them fails. -/
namespace GraphCache

/-- The state of a store. `tables none` stands for tables that are missing. -/
inductive Store (τ : Type) where
  | memory (state : Memory τ)
  | tables (state : Option (Table τ))
deriving Repr, DecidableEq

namespace Store

variable {τ : Type} [Instant τ]

/-- The reason given when the tables are missing. -/
def missingTables : String := "no such table"

/-- The records that the answer for a key was made of, as far as they are live. -/
def lookup (store : Store τ) (now : τ) (key : String) : Except Failure (List (Record τ)) :=
  match store with
  | memory state => .ok (state.lookup now (.text key))
  | tables (some state) => .ok (state.lookup now key)
  | tables none => .error (.readFailed key missingTables)

/-- The live records of a type, or the one of them with an identifier. -/
def find (store : Store τ) (now : τ) (typeName : String) (identifier : Option String) :
    Except Failure (List (Record τ)) :=
  match store with
  | memory state => .ok (state.find now typeName identifier)
  | tables (some state) => .ok (state.find now typeName identifier)
  | tables none =>
    .error (.readFailed (typeName ++ ":" ++ identifier.getD "None") missingTables)

/-- Writes a batch. An empty batch needs no tables. -/
def write (store : Store τ) (now : τ) (batch : Batch τ) : Except Failure (Store τ) :=
  match store with
  | memory state => .ok (memory (state.write now batch))
  | tables (some state) => .ok (tables (some (state.write now batch)))
  | tables none =>
    if batch.size = 0 then .ok store
    else .error (.writeFailed missingTables [("entities", .int batch.entities.length)])

/-- Drops every record and every entry. -/
def clear (store : Store τ) : Except Failure (Store τ) :=
  match store with
  | memory _ => .ok (memory .empty)
  | tables (some _) => .ok (tables (some .empty))
  | tables none => .error (.writeFailed missingTables [("operation", .string "clear")])

/-- The number of records held, expired ones included. -/
def size : Store τ → Nat
  | memory state => state.entities.length
  | tables (some state) => state.entities.length
  | tables none => 0

/-- The store as it is found when it is opened again: memory is gone, and missing
tables are made anew. -/
def reopen : Store τ → Store τ
  | memory _ => memory .empty
  | tables state => tables (some (state.getD .empty))

/-- The store without its tables. -/
def dropTables : Store τ → Store τ
  | memory state => memory state
  | tables _ => tables none

/-- All live records in order of their keys. -/
def liveRecords (store : Store τ) (now : τ) : List (Record τ) :=
  let records : List (Record τ) :=
    match store with
    | memory state => state.entities.map Prod.snd
    | tables (some state) => state.records
    | tables none => []
  (records.filter (·.isLive now)).mergeSort fun left right => decide (left.key ≤ right.key)

/-- All live index entries in order of their keys. -/
def liveEntries (store : Store τ) (now : τ) : List (IndexEntry τ) :=
  let entries : List (IndexEntry τ) :=
    match store with
    | memory state => state.queries.map Prod.snd
    | tables (some state) => state.queries.map fun entry => Table.toEntry entry.1 entry.2
    | tables none => []
  (entries.filter (·.isLive now)).mergeSort fun left right =>
    decide (left.key.toText ≤ right.key.toText)

end Store

/-- How a store files by default. -/
structure StoreSettings (τ : Type) where
  lifetime : τ
  custom : Option String
deriving Repr, DecidableEq

/-- Why a label could not be looked up, or an answer could not be stored. -/
inductive StoreError where
  | failure (cause : Failure)
  | malformed (cause : Malformed)

/-- The records that the answer for a label was made of. Memory keeps labels as they
are; tables take every label as a primary key. -/
def Store.recall {τ : Type} [Instant τ] (store : Store τ) (now : τ) (label : Label) :
    Except StoreError (List (Record τ)) :=
  match store, label with
  | store, .text key => (store.lookup now key).mapError .failure
  | .memory state, label => do return state.lookup now (← label.hashable.mapError .malformed)
  | .tables (some state), .displaced mark =>
    match label.rowKey? with
    | some key => .ok (state.lookup now key)
    | none => .error (.failure (.unaddressable mark "no primary key"))
  | .tables none, .displaced mark => .error (.failure (.unaddressable mark Store.missingTables))

/-- One answer that is to be stored. A lifetime and an identifier name that are
given replace the store's own; an empty name is not given. -/
structure Deposit (τ : Type) where
  prototype : Prototype
  data : Json
  typeMap : OrderedMap String Json
  fieldMap : OrderedMap String Json
  fromMutation : Bool
  custom : Option String
  lifetime : Option τ

/-- How a deposit is filed at an instant. -/
def Deposit.filing {τ : Type} [Instant τ] (deposit : Deposit τ) (settings : StoreSettings τ)
    (now : τ) : Filing τ where
  fieldMap := lowerNames deposit.fieldMap
  typeMap := lowerNames deposit.typeMap
  fromMutation := deposit.fromMutation
  custom := givenName? deposit.custom <|> settings.custom
  expiresAt := some (Instant.after now (deposit.lifetime.getD settings.lifetime))

/-- Files an answer and writes the batch, unless it is empty. -/
def Store.deposit {τ : Type} [Instant τ] (store : Store τ) (settings : StoreSettings τ) (now : τ)
    (deposit : Deposit τ) : Except StoreError (Store τ × Batch τ) := do
  let batch ← ((deposit.filing settings now).batchOf deposit.prototype deposit.data).mapError
    StoreError.malformed
  if batch.size = 0 then return (store, batch)
  let written ← (store.write now batch).mapError StoreError.failure
  return (written, batch)

end GraphCache
