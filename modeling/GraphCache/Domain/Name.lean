import GraphCache.Domain.Label
import GraphCache.Text.Ascii
import GraphCache.Text.Punycode

/-! Domain names in the characters of any script. A label beyond ASCII is sent as one of
ASCII, which a mark at its front tells apart from others. A name is read and written label
by label. -/
namespace GraphCache
namespace Domain

/-- What stands before an encoded label. -/
def encodedMark : List Char := "xn--".toList

def points (text : List Char) : Label := text.map Char.toNat

/-- The full stops of several scripts divide the labels of a name. -/
def isDot (c : Char) : Bool := c == '.' || c == '\u3002' || c == '\uff0e' || c == '\uff61'

def splitLabels : List Char → List (List Char)
  | [] => [[]]
  | c :: rest =>
    match splitLabels rest with
    | [] => [[c]]
    | first :: others => if isDot c then [] :: first :: others else (c :: first) :: others

/-- The labels of a name, and whether a dot ends it. -/
def labelsOf (name : List Char) : Except Fault (List (List Char) × Bool) := do
  if greatestNameLength < name.length then throw .nameTooLong
  let labels := splitLabels name
  if labels == [[]] then throw .emptyName
  if labels.getLast? == some [] then return (labels.dropLast, true)
  return (labels, false)

/-- A label of ASCII in its own characters. -/
def decodeLabel (label : List Char) : Except Fault Label := do
  let small := label.map Char.toLower
  if encodedMark.isPrefixOf small then
    let content := small.drop encodedMark.length
    if content.isEmpty then throw .noContent
    if content.getLast? == some '-' then throw .endsInHyphen
    match Text.Punycode.decode? content with
    | none => throw .undecodable
    | some decoded =>
      checkLabel decoded
      return decoded
  checkLabel (points small)
  return points small

/-- The greatest length of a label as it is sent. -/
def greatestLabelLength : Nat := 63

/-- A label as it is sent. -/
def encodeLabel (label : List Char) : Except Fault (List Char) := do
  let sent ←
    if label.all Text.isAscii then do
      let _ ← decodeLabel label
      pure label
    else do
      checkLabel (points label)
      pure (encodedMark ++ Text.Punycode.encode (points label))
  if greatestLabelLength < sent.length then throw .labelTooLong
  return sent

/-- A name as it is sent. -/
def encode (name : String) : Except Fault String := do
  let (labels, dotted) ← labelsOf name.toList
  let sent := ['.'].intercalate (← labels.mapM encodeLabel) ++ if dotted then ['.'] else []
  if greatestNameLength < sent.length + (if dotted then 0 else 1) then throw .nameTooLong
  return String.ofList sent

/-- Why a name that is sent stands for none in its own characters. -/
def decodeFault? (name : String) : Option Fault :=
  match labelsOf name.toList with
  | .error fault => some fault
  | .ok (labels, _) =>
    match labels.mapM decodeLabel with
    | .error fault => some fault
    | .ok _ => none

end Domain
end GraphCache
