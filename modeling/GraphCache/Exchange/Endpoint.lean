import GraphCache.Domain.Name
import GraphCache.Json.Reader
import GraphCache.Text.Base64
import GraphCache.Text.Utf8

/-! Addresses of servers. An endpoint is read into its parts, which are put into one
form: scheme and host in lower case, a host of any script as a domain name is sent, no
service number that the scheme implies, no steps of the path that lead nowhere, and
escaped bytes for characters that an address cannot hold. An endpoint without a scheme or
a host is only a place below the root of some server. -/
namespace GraphCache

/-- An address in its parts. The service number tells apart the servers at one host. -/
structure Endpoint where
  scheme : String
  user : String
  host : String
  service : Option Int
  path : String
  query : Option String
  fragment : Option String
deriving DecidableEq, Repr

/-- Why a text is no address. -/
inductive EndpointFault where
  | tooLong
  | controlCharacter (c : Char) (position : Nat)
  | service (text : String)
  | fourPartAddress (host : String)
  | bracketedAddress (host : String)
  | domainName (host : String)
  | doubleSlash
  | leadingColon
  | partTooLong (part : String)
deriving DecidableEq, Repr

def EndpointFault.message : EndpointFault → String
  | tooLong => "URL too long"
  | controlCharacter c position =>
    "Invalid non-printable ASCII character in URL, " ++ Text.quoted (String.singleton c) ++
      " at position " ++ toString position ++ "."
  | service text => "Invalid port: " ++ Text.quoted text
  | fourPartAddress host => "Invalid IPv4 address: " ++ Text.quoted host
  | bracketedAddress host => "Invalid IPv6 address: " ++ Text.quoted host
  | domainName host => "Invalid IDNA hostname: " ++ Text.quoted host
  | doubleSlash => "Relative URLs cannot have a path starting with '//'"
  | leadingColon => "Relative URLs cannot have a path starting with ':'"
  | partTooLong part => "URL component '" ++ part ++ "' too long"

namespace Endpoint

/-! ## Characters -/

/-- One character as escaped bytes. -/
def escape (c : Char) : List Char :=
  (String.singleton c).toUTF8.toList.flatMap fun byte =>
    '%' :: (Text.hexDigits 2 byte.toNat).map Char.toUpper

/-- Escapes every character that is refused and every one beyond ASCII. An escape that
is there already stays. -/
def escapeAll (refused : List Char) (text : List Char) : List Char :=
  text.flatMap fun c => if 127 ≤ c.toNat || refused.contains c then escape c else [c]

/-- The characters that a query cannot hold. -/
def refusedInQuery : List Char := [' ', '"', '#', '<', '>']

/-- The characters that a path cannot hold. -/
def refusedInPath : List Char := refusedInQuery ++ ['?', '\x60', '\x7b', '\x7d']

def refusedInFragment : List Char := [' ', '"', '<', '>', '\x60']

/-- The characters that the part before a host cannot hold. -/
def refusedInUser : List Char := refusedInPath ++ ['/', ';', '=', '@', '[', '\\', ']', '^', '|']

def refusedInHost : List Char := [' ', '#', '/', ':', '<', '>', '?', '@', '[', ']', '^']

/-! ## Hosts and services -/

/-- The parts of a text between separators. -/
def splitAt (separator : Char) : List Char → List (List Char)
  | [] => [[]]
  | c :: rest =>
    match splitAt separator rest with
    | [] => [[c]]
    | first :: others =>
      if c = separator then [] :: first :: others else (c :: first) :: others

/-- The runs of digits in a text. -/
def digitRuns : List Char → List (List Char)
  | [] => [[]]
  | c :: rest =>
    match digitRuns rest with
    | [] => [[c]]
    | run :: others => if Json.isDigit c then (c :: run) :: others else [] :: run :: others

/-- Whether a text can be cut into four runs of digits, with one character, which may be
a digit too, between every two. -/
def isFourPart (host : List Char) : Bool :=
  let runs := digitRuns host
  runs.all (!·.isEmpty) && decide (runs.length ≤ 4) &&
    decide (4 ≤ runs.foldl (fun total run => total + (run.length + 1) / 2) 0)

/-- A part of an address of four numbers: below 256, without leading zeros. -/
def isByte (part : List Char) : Bool :=
  !part.isEmpty && part.all Json.isDigit && decide (part.length ≤ 3) && decide (Written.decimal part ≤ 255) &&
    (part.length == 1 || part.head? != some '0')

/-- Whether a text is an address of four numbers with dots between them. -/
def isFourNumbers (text : List Char) : Bool :=
  let parts := splitAt '.' text
  parts.length == 4 && parts.all isByte

/-- A group of an address is written in one to four hexadecimal digits. -/
def isGroup (part : List Char) : Bool :=
  !part.isEmpty && decide (part.length ≤ 4) && (Json.hexNumber? part).isSome

/-- How many groups of two bytes the parts of an address write. -/
def groupCount? : List (List Char) → Option Nat
  | [] => some 0
  | part :: rest => if isGroup part then (groupCount? rest).map (· + 1) else none

/-- How many groups the parts at the end of an address write. The last one may be an
address of four numbers. -/
def lastGroupCount? (parts : List (List Char)) : Option Nat :=
  match parts.getLast? with
  | some last =>
    if last.contains '.' then
      if isFourNumbers last then (groupCount? parts.dropLast).map (· + 2) else none
    else groupCount? parts
  | none => some 0

/-- The texts before and after the first pair of colons. -/
def splitPair : List Char → Option (List Char × List Char)
  | ':' :: ':' :: rest => some ([], rest)
  | c :: rest => (splitPair rest).map fun (before, after) => (c :: before, after)
  | [] => none

/-- The parts on one side of a pair of colons, where there may be none. -/
def sideParts (side : List Char) : List (List Char) :=
  if side.isEmpty then [] else splitAt ':' side

/-- Whether a text is an address of eight groups. One pair of colons may stand for the
groups that are zero. -/
def isEightGroups (text : List Char) : Bool :=
  match splitPair text with
  | none => lastGroupCount? (splitAt ':' text) == some 8
  | some (before, after) =>
    match groupCount? (sideParts before), lastGroupCount? (sideParts after) with
    | some left, some right => decide (left + right ≤ 7)
    | _, _ => false

/-- Whether a text is an address of groups, behind which a zone may be named. -/
def isGroupAddress (text : List Char) : Bool :=
  isEightGroups (text.takeWhile (· != '%')) &&
    match text.dropWhile (· != '%') with
    | _ :: zone => !zone.isEmpty && !zone.contains '%'
    | [] => true

/-- The host as a request names it. -/
def readHost (host : List Char) : Except EndpointFault String :=
  if isFourPart host then
    if isFourNumbers host then .ok (String.ofList host)
    else .error (.fourPartAddress (String.ofList host))
  else if host.head? == some '[' && host.getLast? == some ']' then
    let inside := (host.drop 1).dropLast
    if isGroupAddress inside then .ok (String.ofList inside)
    else .error (.bracketedAddress (String.ofList host))
  else if host.all Text.isAscii then
    .ok (String.ofList (escapeAll refusedInHost (host.map Char.toLower)))
  else
    (Domain.encode (Text.lowercase (String.ofList host))).mapError fun _ =>
      .domainName (String.ofList host)

/-- The service number that is meant when none is given. -/
def standardService? : String → Option Int
  | "ftp" => some 21
  | "http" | "ws" => some 80
  | "https" | "wss" => some 443
  | _ => none

/-- The service number, if it is another one than the scheme's own. Only a scheme in
lower case has one. -/
def readService (scheme : String) (text : List Char) : Except EndpointFault (Option Int) :=
  if text.isEmpty then .ok none
  else
    match Written.whole? 10 text with
    | some service => .ok (if some service = standardService? scheme then none else some service)
    | none => .error (.service (String.ofList text))

/-! ## Paths -/

/-- Drops steps that stay in place, and pairs of a step down and one up. -/
def dropIdleSteps (path : List Char) : List Char :=
  let steps := (splitAt '/' path).foldl (fun kept step =>
    if step = ['.'] then kept
    else if step = ['.', '.'] then
      if kept.isEmpty || kept == [[]] then kept else kept.drop 1
    else step :: kept) []
  ['/'].intercalate steps.reverse

/-! ## Reading -/

def isSchemeChar (c : Char) : Bool := c.isAlphanum || c == '+' || c == '-' || c == '.'

/-- The scheme, and what follows it. -/
def splitScheme (text : List Char) : List Char × List Char :=
  let name := text.takeWhile isSchemeChar
  match text.drop name.length with
  | ':' :: rest =>
    if (name.head?.map Char.isAlpha).getD true then (name, rest) else ([], text)
  | _ => ([], text)

def splitAuthority (text : List Char) : List Char × List Char :=
  match text with
  | '/' :: '/' :: rest =>
    let authority := rest.takeWhile fun c => c != '/' && c != '?' && c != '#'
    (authority, rest.drop authority.length)
  | text => ([], text)

/-- The user before the last at sign, and what follows it. -/
def splitUser (authority : List Char) : List Char × List Char :=
  let place := (authority.reverse.takeWhile (· != '@')).reverse
  (authority.take (authority.length - place.length - 1), place)

/-- The host, which may stand in brackets, and the service number after a colon. -/
def splitHost (text : List Char) : List Char × List Char :=
  let bracketed := (text.reverse.dropWhile (· != ']')).reverse
  let host :=
    if text.head? == some '[' && !bracketed.isEmpty then bracketed
    else text.takeWhile fun c => c != ':' && c != '@'
  match text.drop host.length with
  | ':' :: service => (host, service)
  | service => (host, service)

/-- What a mark begins, up to the marks that end it. -/
def markedPart (mark : Char) (ends : Char → Bool) (text : List Char) : Option (List Char) :=
  match text with
  | c :: rest => if c = mark then some (rest.takeWhile fun c => !ends c) else none
  | [] => none

def isControl (c : Char) : Bool := decide (c.toNat < 32) || c.toNat == 127

/-- The greatest number of characters. -/
def greatestLength : Nat := 65536

/-- Whether an endpoint names a server. -/
def isAbsolute (endpoint : Endpoint) : Bool := !endpoint.scheme.isEmpty && !endpoint.host.isEmpty

/-- The endpoint as a request names it. One that names no server is a place below the
root. -/
def resolved (endpoint : Endpoint) : Endpoint :=
  if endpoint.isAbsolute then endpoint
  else
    { scheme := "", user := "", host := "", service := none
      path := String.ofList ('/' :: endpoint.path.toList.dropWhile (· == '/'))
      query := endpoint.query
      fragment := none }

/-- A part of a place below the root of a server that is too long once its characters are
escaped. -/
def tooLongPart? (endpoint : Endpoint) : Option String :=
  if endpoint.isAbsolute then none
  else if greatestLength < endpoint.resolved.path.length then some "path"
  else if greatestLength < (endpoint.query.getD "").length then some "query"
  else none

/-- Reads an endpoint as it is written. -/
def read (text : String) : Except EndpointFault Endpoint := do
  let source := text.toList
  if greatestLength < source.length then throw .tooLong
  let before := source.takeWhile (!isControl ·)
  if let c :: _ := source.drop before.length then throw (.controlCharacter c before.length)
  let (scheme, afterScheme) := splitScheme source
  let (authority, afterAuthority) := splitAuthority afterScheme
  let path := afterAuthority.takeWhile fun c => c != '?' && c != '#'
  let query := markedPart '?' (· == '#') (afterAuthority.drop path.length)
  let fragment := markedPart '#' (fun _ => false) (afterAuthority.dropWhile (· != '#'))
  let (user, place) := splitUser authority
  let (hostText, serviceText) := splitHost place
  let host ← readHost hostText
  let service ← readService (String.ofList scheme) serviceText
  let scheme := scheme.map Char.toLower
  let isPlaced := !user.isEmpty || !host.isEmpty || service.isSome
  if scheme.isEmpty && !isPlaced then
    if "//".toList.isPrefixOf path then throw .doubleSlash
    if path.head? == some ':' then throw .leadingColon
  let steps := if scheme.isEmpty && !isPlaced then path else dropIdleSteps path
  let endpoint : Endpoint := {
    scheme := String.ofList scheme
    user := String.ofList (escapeAll refusedInUser user)
    host
    service
    path := String.ofList (escapeAll refusedInPath steps)
    query := query.map fun part => String.ofList (escapeAll refusedInQuery part)
    fragment := fragment.map fun part => String.ofList (escapeAll refusedInFragment part) }
  if let some part := endpoint.tooLongPart? then throw (.partTooLong part)
  return endpoint

/-- The server: the host and the service number. -/
def server (endpoint : Endpoint) : String :=
  (if endpoint.host.contains ':' then "[" ++ endpoint.host ++ "]" else endpoint.host) ++
    ((endpoint.service.map fun service => ":" ++ toString service).getD "")

/-- The part that names the server and who asks it. -/
def authority (endpoint : Endpoint) : String :=
  (if endpoint.user.isEmpty then "" else endpoint.user ++ "@") ++ endpoint.server

def toText (endpoint : Endpoint) : String :=
  (if endpoint.scheme.isEmpty then "" else endpoint.scheme ++ ":") ++
    (if endpoint.authority.isEmpty then "" else "//" ++ endpoint.authority) ++ endpoint.path ++
    ((endpoint.query.map ("?" ++ ·)).getD "") ++ ((endpoint.fragment.map ("#" ++ ·)).getD "")

/-- The bytes of a text in which bytes may be escaped. -/
def unescape : List Char → List UInt8
  | '%' :: a :: b :: rest =>
    match Json.hexNumber? [a, b] with
    | some byte => UInt8.ofNat byte :: unescape rest
    | none => Text.Utf8.encode ['%'] ++ unescape (a :: b :: rest)
  | c :: rest => Text.Utf8.encode [c] ++ unescape rest
  | [] => []

/-- What a request shows to be let in: the name and the word of its user. -/
def credentials? (endpoint : Endpoint) : Option String :=
  let user := endpoint.user.toList
  let plain (part : List Char) : List Char := Text.Utf8.decodeLossy (unescape part)
  let name := plain (user.takeWhile (· != ':'))
  let word := plain ((user.dropWhile (· != ':')).drop 1)
  if name.isEmpty && word.isEmpty then none
  else some ("Basic " ++ String.ofList (Text.Base64.encode (Text.Utf8.encode (name ++ ':' :: word))))

/-- Why no connection can be made: only these protocols are spoken. -/
def protocolFault? (endpoint : Endpoint) : Option String :=
  let scheme := endpoint.resolved.scheme
  if scheme.isEmpty then some "Request URL is missing an 'http://' or 'https://' protocol."
  else if ["http", "https", "ws", "wss"].contains scheme then none
  else some ("Request URL has an unsupported protocol '" ++ scheme ++ "://'.")

end Endpoint
end GraphCache
