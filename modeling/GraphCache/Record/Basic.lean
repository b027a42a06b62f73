import GraphCache.Number.Instant
import GraphCache.Prototype.Key

/-! What a cache keeps. Every object of an answer that can be addressed becomes a
record; every root field becomes an index entry, which names the records its
answer was made of. One answer yields a batch of both. -/
namespace GraphCache

/-- One entity: the fields that have been requested of it, with their values. -/
structure Record (τ : Type) where
  key : String
  typeName : String
  entityId : String
  data : OrderedMap String Json
  fromMutation : Bool
  expiresAt : Option τ
deriving Repr, DecidableEq

/-- The entities that the answer for a root field was made of, in its order. -/
structure IndexEntry (τ : Type) where
  key : Label
  typeName : Label
  entityKeys : List String
  fromMutation : Bool
  expiresAt : Option τ
deriving Repr, DecidableEq

/-- Everything one answer is stored as. -/
structure Batch (τ : Type) where
  entities : OrderedMap String (Record τ)
  queries : List (IndexEntry τ)
deriving Repr, DecidableEq

namespace Batch

variable {τ : Type}

def empty : Batch τ := ⟨[], []⟩

/-- The number of records and entries together. -/
def size (batch : Batch τ) : Nat := batch.entities.length + batch.queries.length

end Batch

def Record.isLive {τ : Type} [Instant τ] (record : Record τ) (now : τ) : Bool :=
  !hasExpired record.expiresAt now

def IndexEntry.isLive {τ : Type} [Instant τ] (entry : IndexEntry τ) (now : τ) : Bool :=
  !hasExpired entry.expiresAt now

end GraphCache
