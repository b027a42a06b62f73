import GraphCache.Record.Basic
import GraphCache.Text.Lowercase

/-! The store that lives as long as its client. It keeps records and index entries
as they were written; a record that is still live when its key is written again
keeps the fields that the new record lacks. -/
namespace GraphCache

structure Memory (τ : Type) where
  entities : OrderedMap String (Record τ)
  queries : OrderedMap Label (IndexEntry τ)
deriving Repr, DecidableEq

namespace Memory

variable {τ : Type} [Instant τ]

def empty : Memory τ := ⟨[], []⟩

/-- The live records of a live entry, in the order of the entry. -/
def lookup (store : Memory τ) (now : τ) (key : Label) : List (Record τ) :=
  match OrderedMap.get? store.queries key with
  | none => []
  | some entry =>
    if entry.isLive now then
      (entry.entityKeys.filterMap (OrderedMap.get? store.entities ·)).filter (·.isLive now)
    else []

/-- The live records of a type, or the one of them with an identifier. -/
def find (store : Memory τ) (now : τ) (typeName : String) (identifier : Option String) :
    List (Record τ) :=
  let wanted := Text.lowercase typeName
  (store.entities.map Prod.snd).filter fun record =>
    record.typeName == wanted && (identifier.all (record.entityId == ·)) && record.isLive now

/-- Writes one record over what is live under its key. -/
def writeRecord (now : τ) (entities : OrderedMap String (Record τ)) (key : String)
    (record : Record τ) : OrderedMap String (Record τ) :=
  let stored :=
    match OrderedMap.get? entities key with
    | some existing =>
      if existing.isLive now then
        { record with data := OrderedMap.overlay existing.data record.data }
      else record
    | none => record
  OrderedMap.insert entities key stored

def write (store : Memory τ) (now : τ) (batch : Batch τ) : Memory τ where
  entities := batch.entities.foldl (fun entities entry =>
    writeRecord now entities entry.1 entry.2) store.entities
  queries := batch.queries.foldl (fun queries entry =>
    OrderedMap.insert queries entry.key entry) store.queries

end Memory
end GraphCache
