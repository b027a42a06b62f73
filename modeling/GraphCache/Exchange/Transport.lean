import GraphCache.Exchange.Endpoint
import GraphCache.Failure
import GraphCache.Json.Body
import GraphCache.Text.Ascii
import GraphCache.Text.Uppercase

/-! Sending a document. The request always carries the caller's own text, and only an
object in a body that is JSON counts as an answer. -/
namespace GraphCache

/-- A request. A caller may give any values for headers, but only texts are sent. -/
structure Request where
  method : String
  endpoint : String
  query : String
  headers : OrderedMap String Json
deriving DecidableEq, Repr

namespace Request

/-- The body of a request: the query as JSON. -/
def body (request : Request) : String :=
  Json.print Json.bodyStyle (.object [("query", .string request.query)])

/-- The method as it is sent. -/
def sentMethod (request : Request) : String := Text.uppercase request.method

/-- The headers that were asked for: names in lower case, and values under one name
joined in order. -/
def givenHeaders (request : Request) : OrderedMap String String :=
  request.headers.foldl (fun sent header =>
    let name := Text.lowercase header.1
    OrderedMap.insert sent name
      (match OrderedMap.get? sent name with
        | some value => value ++ ", " ++ header.2.display
        | none => header.2.display)) []

/-- The address to which a request goes, if its endpoint is one. -/
def place? (request : Request) : Option Endpoint :=
  (Endpoint.read request.endpoint).toOption.map Endpoint.resolved

/-- The headers as they are sent. A user in the endpoint takes the place of any other. -/
def sentHeaders (request : Request) : OrderedMap String String :=
  match request.place?.bind Endpoint.credentials? with
  | some credentials => OrderedMap.insert request.givenHeaders "authorization" credentials
  | none => request.givenHeaders

end Request

/-- Why a request cannot be made. -/
inductive Refusal where
  /-- The endpoint is no address. -/
  | endpoint (reason : String)
  /-- A text that is sent with the request goes beyond ASCII. -/
  | foreign (characters : Text.Foreign)
  /-- The value of a header is no text. -/
  | header (kind : String)
  /-- The host stands for no domain name in its own characters. -/
  | host (fault : Domain.Fault)
deriving DecidableEq, Repr

def Refusal.message : Refusal → String
  | endpoint reason => reason
  | foreign characters => characters.message
  | header kind => "Header value must be str or bytes, not <class '" ++ kind ++ "'>"
  | host fault => fault.message

namespace Request

/-- Why a header cannot be sent. Its name is looked at first. -/
def refusalOf? (header : String × Json) : Option Refusal :=
  (Text.firstForeign? header.1).map Refusal.foreign <|>
    match header.2 with
    | .string value => (Text.firstForeign? value).map .foreign
    | value => some (.header value.kindName)

/-- Why the headers cannot be sent. -/
def headerRefusal? (request : Request) : Option Refusal := request.headers.findSome? refusalOf?

/-- Why the server of an endpoint cannot be named in a header of its own, which only
stands where none was asked for. -/
def serverRefusal? (request : Request) (place : Endpoint) : Option Refusal :=
  if request.givenHeaders.any (·.1 == "host") then none
  else if Domain.encodedMark.isPrefixOf place.host.toList then
    (Domain.decodeFault? place.host).map .host
  else (Text.firstForeign? place.server).map .foreign

/-- Why a request cannot be made. Its endpoint is looked at first. -/
def refusal? (request : Request) : Option Refusal :=
  match Endpoint.read request.endpoint with
  | .error fault => some (.endpoint fault.message)
  | .ok endpoint => request.headerRefusal? <|> request.serverRefusal? endpoint.resolved

end Request

/-- What comes of a request. -/
inductive Delivery where
  /-- The server has answered. -/
  | answered (status : Int) (body : String)
  /-- The request did not get through. -/
  | failed (reason : String)
  /-- The request cannot be made, so nothing was sent. -/
  | refused (cause : Refusal)
deriving DecidableEq, Repr

/-- What comes of a request to a server that would deliver this: one that cannot be made
is not sent. -/
def Delivery.through (request : Request) (delivery : Delivery) : Delivery :=
  match request.refusal? with
  | some cause => .refused cause
  | none => delivery

/-- What comes of a request that is made without a server: it fails for the protocol. -/
def Delivery.unconnected (request : Request) : Delivery :=
  .through request (.failed ((request.place?.bind Endpoint.protocolFault?).getD ""))

/-- An answer: an object whose fields are the data and the errors. -/
abbrev Answer := OrderedMap String Json

/-- Why there is no answer. A request that cannot be made is the caller's fault and is
reported as it is, and so is a body that is nested too deeply. -/
inductive SendError where
  | failure (cause : Failure)
  | refused (cause : Refusal)
  | tooDeep (nesting : Json.Nesting)

/-- Statuses of errors. Others, redirections included, leave the body to decide. -/
def isErrorStatus (status : Int) : Bool := decide (400 ≤ status) && decide (status < 600)

/-- The answer in a body. -/
def readAnswer (endpoint body : String) : Except SendError Answer :=
  match Json.readBody body with
  | .error (.tooDeep nesting) => .error (.tooDeep nesting)
  | .error (.invalid reason) => .error (.failure (.invalidAnswer endpoint reason))
  | .ok (.object fields) => .ok fields
  | .ok value =>
    .error (.failure (.invalidAnswer endpoint ("expected an object, got " ++ value.kindName)))

/-- The answer in what has been delivered. -/
def Delivery.answer (endpoint : String) : Delivery → Except SendError Answer
  | failed reason => .error (.failure (.requestFailed endpoint reason))
  | refused cause => .error (.refused cause)
  | answered status body =>
    if isErrorStatus status then .error (.failure (.badStatus endpoint status))
    else readAnswer endpoint body

end GraphCache
