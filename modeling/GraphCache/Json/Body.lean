import GraphCache.Json.Reader
import GraphCache.Text.Quoted

/-! Bodies that hold a value as JSON. A body says nowhere how its characters are encoded,
but since its first ones belong to ASCII, the zeros among its first bytes tell. -/
namespace GraphCache
namespace Json

/-- How characters are written as bytes: one to four bytes each, or units of two or four
bytes with the great end first or last. -/
inductive Encoding where
  | bytes
  | pairs (greatFirst : Bool)
  | quads (greatFirst : Bool)
deriving DecidableEq, Repr

def Encoding.name : Encoding → String
  | bytes => "utf-8"
  | pairs greatFirst => if greatFirst then "utf-16-be" else "utf-16-le"
  | quads greatFirst => if greatFirst then "utf-32-be" else "utf-32-le"

/-- The encoding of a body. -/
def Encoding.detect : List UInt8 → Encoding
  | [0, _] => .pairs true
  | [_, 0] => .pairs false
  | 0 :: second :: _ :: _ :: _ => if second = 0 then .quads true else .pairs true
  | _ :: 0 :: third :: fourth :: _ =>
    if third = 0 ∧ fourth = 0 then .quads false else .pairs false
  | _ => .bytes

/-- Bytes of a body that stand for no character. -/
structure EncodingFault where
  encoding : Encoding
  position : Nat
  bytes : List UInt8
  truncated : Bool

def EncodingFault.message (fault : EncodingFault) : String :=
  let place :=
    match fault.bytes with
    | [byte] => "byte 0x" ++ String.ofList (Text.hexDigits 2 byte.toNat) ++ " in position " ++
        toString fault.position
    | bytes => "bytes in position " ++ toString fault.position ++ "-" ++
        toString (fault.position + bytes.length - 1)
  "'" ++ fault.encoding.name ++ "' codec can't decode " ++ place ++ ": " ++
    if fault.truncated then "truncated data" else "code point not in range(0x110000)"

/-- The number that bytes write with the great end first. -/
def unitValue (bytes : List UInt8) : Nat :=
  bytes.foldl (fun total byte => 256 * total + byte.toNat) 0

/-- The characters that units of two bytes stand for, after half a pair that may wait for
its other half. Halves that stand alone are no characters. -/
def decodePairs (greatFirst : Bool) (high : Option Nat) (position : Nat) :
    List UInt8 → Except EncodingFault (List Char)
  | [] => .ok (high.map charOfUnit).toList
  | [byte] => .error ⟨.pairs greatFirst, position, [byte], true⟩
  | first :: second :: rest =>
    let unit := unitValue (if greatFirst then [first, second] else [second, first])
    let waiting (unit : Nat) : List Char × Option Nat :=
      if isHighSurrogate unit then ([], some unit) else ([charOfUnit unit], none)
    let read : List Char × Option Nat :=
      match high with
      | none => waiting unit
      | some high =>
        if isLowSurrogate unit then
          ([Char.ofNat (0x10000 + (high - 0xD800) * 1024 + (unit - 0xDC00))], none)
        else
          let (chars, next) := waiting unit
          (charOfUnit high :: chars, next)
    (decodePairs greatFirst read.2 (position + 2) rest).map (read.1 ++ ·)

/-- The characters that units of four bytes stand for. -/
def decodeQuads (greatFirst : Bool) (position : Nat) :
    List UInt8 → Except EncodingFault (List Char)
  | [] => .ok []
  | a :: b :: c :: d :: rest =>
    let code := unitValue (if greatFirst then [a, b, c, d] else [d, c, b, a])
    if code < 0x110000 then
      (decodeQuads greatFirst (position + 4) rest).map (charOfUnit code :: ·)
    else .error ⟨.quads greatFirst, position, [a, b, c, d], false⟩
  | bytes => .error ⟨.quads greatFirst, position, bytes, true⟩

/-- The characters of a body, of which a leading byte order mark is none. -/
def decodeBody (body : String) : Except EncodingFault (List Char) :=
  let bytes := body.toUTF8.toList
  match Encoding.detect bytes, body.toList with
  | _, '\ufeff' :: rest => .ok rest
  | .pairs greatFirst, _ => decodePairs greatFirst none 0 bytes
  | .quads greatFirst, _ => decodeQuads greatFirst 0 bytes
  | .bytes, text => .ok text

/-! ## Depth -/

/-- The greatest depth to which lists and objects are read. -/
def greatestDepth : Nat := 980

/-- What lies too deep. -/
inductive Nesting where
  | list
  | object
deriving DecidableEq, Repr

/-- The first list or object below a depth, and how many characters stand before it.
Brackets inside texts do not count. -/
def firstBelow? (limit : Nat) : (quoted : Bool) → (depth position : Nat) → List Char →
    Option (Nesting × Nat)
  | _, _, _, [] => none
  | true, depth, position, '\\' :: _ :: rest => firstBelow? limit true depth (position + 2) rest
  | true, depth, position, c :: rest => firstBelow? limit (c != '"') depth (position + 1) rest
  | false, depth, position, c :: rest =>
    if c == '[' || c == '\x7b' then
      if limit ≤ depth then some (if c == '[' then .list else .object, position)
      else firstBelow? limit false (depth + 1) (position + 1) rest
    else if c == ']' || c == '\x7d' then firstBelow? limit false (depth - 1) (position + 1) rest
    else firstBelow? limit (c == '"') depth (position + 1) rest

/-- Why a body is not read. -/
inductive BodyFault where
  | invalid (reason : String)
  | tooDeep (nesting : Nesting)
deriving DecidableEq, Repr

def BodyFault.message : BodyFault → String
  | invalid reason => reason
  | tooDeep nesting =>
    "maximum recursion depth exceeded while decoding a JSON " ++
      (match nesting with
        | .list => "array"
        | .object => "object") ++ " from a unicode string"

/-- Reads a body. Of a fault in its text and one of depth the first one counts. -/
def readBody (body : String) : Except BodyFault Json := do
  let text ← (decodeBody body).mapError fun fault => .invalid fault.message
  match firstBelow? greatestDepth false 0 0 text, readChars text with
  | none, .ok value => return value
  | some (nesting, _), .ok _ => throw (.tooDeep nesting)
  | none, .error error => throw (.invalid (error.message text))
  | some (nesting, position), .error error =>
    throw (if error.position < position then .invalid (error.message text) else .tooDeep nesting)

end Json
end GraphCache
