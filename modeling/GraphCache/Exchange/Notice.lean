import GraphCache.Json.Printer
import GraphCache.Journal.Event

/-! What a call tells the log about itself, step by step. -/
namespace GraphCache

/-- Which store was cleared. -/
inductive StorePlace where
  | memory
  | file (path : String)
deriving DecidableEq, Repr

inductive Notice where
  | ineligible (reason : String) (path : List String)
  | compiled (kind : Option String) (roots : List String)
  | passedThrough (reason : Option String)
  | unmapped (roots : List String)
  | inserted (mutation : Json) (records : Nat)
  | invalidated (mutation : Json) (method : String)
  | cleared (place : StorePlace)
  | lookedUp (hits : List String) (roots : Nat)
  | stored (entities queries : Nat) (fromMutation : Bool)
  | requested (endpoint method : String)
  | requestFailed (endpoint reason : String)
  | badStatus (endpoint : String) (status : Int)
deriving DecidableEq, Repr

namespace Notice

def texts (values : List String) : Json := .array (values.map Json.string)

def optionalText (value : Option String) : Json := (value.map Json.string).getD .null

/-- The notice as an event of the log. -/
def event : Notice → LogEvent
  | ineligible reason path =>
    ⟨"operation_ineligible", .debug,
      [("reason", .string reason), ("path", .string (".".intercalate path))]⟩
  | compiled kind roots =>
    ⟨"operation_compiled", .debug, [("kind", optionalText kind), ("roots", texts roots)]⟩
  | passedThrough reason => ⟨"operation_passthrough", .info, [("reason", optionalText reason)]⟩
  | unmapped roots => ⟨"mutation_unmapped", .info, [("roots", texts roots)]⟩
  | inserted mutation records =>
    ⟨"mutation_insert", .info, [("mutation", mutation), ("records", .int records)]⟩
  | invalidated mutation method =>
    ⟨"mutation_invalidate", .info, [("mutation", mutation), ("method", .string method)]⟩
  | cleared .memory => ⟨"cache_cleared", .info, [("store", .string "memory")]⟩
  | cleared (.file path) =>
    ⟨"cache_cleared", .info, [("store", .string "sqlite"), ("path", .string path)]⟩
  | lookedUp hits roots =>
    ⟨"cache_lookup", .debug, [("hits", texts hits), ("roots", .int roots)]⟩
  | stored entities queries fromMutation =>
    ⟨"cache_normalized", .debug,
      [("entities", .int entities), ("queries", .int queries), ("from_mutation", .bool fromMutation)]⟩
  | requested endpoint method =>
    ⟨"graphql_request", .debug, [("endpoint", .string endpoint), ("method", .string method)]⟩
  | requestFailed endpoint reason =>
    ⟨"graphql_request_failed", .warning, [("endpoint", .string endpoint), ("error", .string reason)]⟩
  | badStatus endpoint status =>
    ⟨"graphql_bad_status", .warning, [("endpoint", .string endpoint), ("status", .int status)]⟩

end Notice
end GraphCache
