import GraphCache.Record.Basic
import GraphCache.Text.Lowercase

/-! The store that outlives its client: two tables of rows under their primary
keys. A row that is written again keeps its type and its identifier, and keeps its
other data only while it is live. Deadlines have the form in which tables keep them. -/
namespace GraphCache

/-- A row of the table of entities, without its key. -/
structure EntityRow (τ : Type) where
  typeName : String
  entityId : String
  data : OrderedMap String Json
  fromMutation : Bool
  expiresAt : Option τ
deriving Repr, DecidableEq

/-- A row of the table of queries, without its key. -/
structure QueryRow (τ : Type) where
  typeName : String
  entityKeys : List String
  fromMutation : Bool
  expiresAt : Option τ
deriving Repr, DecidableEq

structure Table (τ : Type) where
  entities : OrderedMap String (EntityRow τ)
  queries : OrderedMap String (QueryRow τ)
deriving Repr, DecidableEq

namespace Table

variable {τ : Type} [Instant τ]

def empty : Table τ := ⟨[], []⟩

def toRecord (key : String) (row : EntityRow τ) : Record τ :=
  ⟨key, row.typeName, row.entityId, row.data, row.fromMutation, row.expiresAt⟩

def toEntry (key : String) (row : QueryRow τ) : IndexEntry τ :=
  ⟨.text key, .text row.typeName, row.entityKeys, row.fromMutation, row.expiresAt⟩

/-- All rows of entities as records, in order of their keys. -/
def records (store : Table τ) : List (Record τ) :=
  (store.entities.map fun entry => toRecord entry.1 entry.2).mergeSort
    fun left right => decide (left.key ≤ right.key)

/-- The live rows that a live query row names, in its order. -/
def lookup (store : Table τ) (now : τ) (key : String) : List (Record τ) :=
  match OrderedMap.get? store.queries key with
  | none => []
  | some query =>
    if hasExpired query.expiresAt now then []
    else
      query.entityKeys.filterMap fun entityKey =>
        match OrderedMap.get? store.entities entityKey with
        | some row => if hasExpired row.expiresAt now then none else some (toRecord entityKey row)
        | none => none

/-- The live rows of a type, or the one of them with an identifier, in order of
their keys. -/
def find (store : Table τ) (now : τ) (typeName : String) (identifier : Option String) :
    List (Record τ) :=
  let wanted := Text.lowercase typeName
  store.records.filter fun record =>
    record.typeName == wanted && (identifier.all (record.entityId == ·)) && record.isLive now

/-- Writes one record into its row. -/
def writeRow (now : τ) (rows : OrderedMap String (EntityRow τ)) (key : String)
    (record : Record τ) : OrderedMap String (EntityRow τ) :=
  let row : EntityRow τ :=
    match OrderedMap.get? rows key with
    | none =>
      ⟨record.typeName, record.entityId, record.data, record.fromMutation,
        record.expiresAt.map Instant.kept⟩
    | some present =>
      { present with
        data :=
          if hasExpired present.expiresAt now then record.data
          else OrderedMap.overlay present.data record.data
        fromMutation := record.fromMutation
        expiresAt := record.expiresAt.map Instant.kept }
  OrderedMap.insert rows key row

def write (store : Table τ) (now : τ) (batch : Batch τ) : Table τ where
  entities := batch.entities.foldl (fun rows entry => writeRow now rows entry.1 entry.2)
    store.entities
  queries := batch.queries.foldl (fun rows entry =>
    OrderedMap.insert rows entry.key.toText
      ⟨entry.typeName.toText, entry.entityKeys, entry.fromMutation, entry.expiresAt.map Instant.kept⟩)
    store.queries

end Table
end GraphCache
