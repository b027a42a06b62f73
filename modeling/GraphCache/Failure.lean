import GraphCache.Json.Printer

/-! The failures that callers are meant to handle. Each is a cause with what it was
about; code, wording and details follow from it. Codes in the two thousands are
about settings, then come documents, transport and stores. -/
namespace GraphCache

inductive FailureCode where
  | configParseError
  | configInvalidValue
  | querySyntaxError
  | transportRequestFailed
  | transportBadStatus
  | transportInvalidJson
  | cacheReadFailed
  | cacheWriteFailed
deriving DecidableEq, Repr

namespace FailureCode

def number : FailureCode → Nat
  | configParseError => 2001
  | configInvalidValue => 2002
  | querySyntaxError => 3001
  | transportRequestFailed => 4001
  | transportBadStatus => 4002
  | transportInvalidJson => 4003
  | cacheReadFailed => 5001
  | cacheWriteFailed => 5002

def name : FailureCode → String
  | configParseError => "CONFIG_PARSE_ERROR"
  | configInvalidValue => "CONFIG_INVALID_VALUE"
  | querySyntaxError => "QUERY_SYNTAX_ERROR"
  | transportRequestFailed => "TRANSPORT_REQUEST_FAILED"
  | transportBadStatus => "TRANSPORT_BAD_STATUS"
  | transportInvalidJson => "TRANSPORT_INVALID_JSON"
  | cacheReadFailed => "CACHE_READ_FAILED"
  | cacheWriteFailed => "CACHE_WRITE_FAILED"

def all : List FailureCode :=
  [configParseError, configInvalidValue, querySyntaxError, transportRequestFailed,
   transportBadStatus, transportInvalidJson, cacheReadFailed, cacheWriteFailed]

def ofName? (name : String) : Option FailureCode := all.find? (·.name = name)

end FailureCode

/-- The part of the program that a failure comes from. -/
inductive FailureFamily where
  | config
  | document
  | transport
  | store
deriving DecidableEq, Repr

/-- What is shown of a failure. -/
structure FailureReport where
  code : FailureCode
  message : String
  retryable : Bool
  details : OrderedMap String Json

/-- The one-line text of a failure. -/
def FailureReport.line (report : FailureReport) : String :=
  "[" ++ toString report.code.number ++ "] " ++ report.code.name ++ ": " ++ report.message

/-- A failure as a value for other programs. -/
def FailureReport.toJson (report : FailureReport) : Json :=
  .object [("code", .int report.code.number), ("error", .string report.code.name),
    ("message", .string report.message), ("retryable", .bool report.retryable),
    ("details", .object report.details)]

/-- The causes of failures. A failed write tells what was to be written. -/
inductive Failure where
  | unreadableConfig (path reason : String)
  | invalidConfig (field : String) (value : String) (reason : String)
  | invalidDocument (reason : String) (locations : List (Nat × Nat))
  | requestFailed (endpoint reason : String)
  | badStatus (endpoint : String) (status : Int)
  | invalidAnswer (endpoint reason : String)
  | readFailed (key reason : String)
  | unaddressable (key : Json) (reason : String)
  | writeFailed (reason : String) (details : OrderedMap String Json)

namespace Failure

def family : Failure → FailureFamily
  | unreadableConfig .. => .config
  | invalidConfig .. => .config
  | invalidDocument .. => .document
  | requestFailed .. => .transport
  | badStatus .. => .transport
  | invalidAnswer .. => .transport
  | readFailed .. => .store
  | unaddressable .. => .store
  | writeFailed .. => .store

/-- Code, wording and details of each cause. Trying again can help after a request
that did not get through, a server error or a store error. -/
def report : Failure → FailureReport
  | unreadableConfig path reason =>
    ⟨.configParseError, "Failed to parse config at " ++ path ++ ": " ++ reason, false,
      [("path", .string path), ("reason", .string reason)]⟩
  | invalidConfig field value reason =>
    ⟨.configInvalidValue, "Invalid value for '" ++ field ++ "': " ++ reason, false,
      [("field", .string field), ("value", .string value), ("reason", .string reason)]⟩
  | invalidDocument reason locations =>
    ⟨.querySyntaxError, "Invalid GraphQL query: " ++ reason, false,
      [("reason", .string reason),
       ("locations", .array (locations.map fun place => .array [.int place.1, .int place.2]))]⟩
  | requestFailed endpoint reason =>
    ⟨.transportRequestFailed, "Request to " ++ endpoint ++ " failed: " ++ reason, true,
      [("endpoint", .string endpoint), ("reason", .string reason)]⟩
  | badStatus endpoint status =>
    ⟨.transportBadStatus, endpoint ++ " responded with HTTP " ++ toString status,
      decide (500 ≤ status), [("endpoint", .string endpoint), ("status_code", .int status)]⟩
  | invalidAnswer endpoint reason =>
    ⟨.transportInvalidJson, endpoint ++ " returned a non-JSON body: " ++ reason, false,
      [("endpoint", .string endpoint), ("reason", .string reason)]⟩
  | readFailed key reason =>
    ⟨.cacheReadFailed, "Cache read for '" ++ key ++ "' failed: " ++ reason, true,
      [("key", .string key), ("reason", .string reason)]⟩
  | unaddressable key reason =>
    ⟨.cacheReadFailed, "Cache read for '" ++ key.display ++ "' failed: " ++ reason, true,
      [("key", key), ("reason", .string reason)]⟩
  | writeFailed reason details =>
    ⟨.cacheWriteFailed, "Cache write failed: " ++ reason, true, details⟩

end Failure
end GraphCache
