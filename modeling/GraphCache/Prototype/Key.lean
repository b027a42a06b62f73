import GraphCache.Json.Printer
import GraphCache.Prototype.Basic
import GraphCache.Prototype.Identifier
import GraphCache.Text.Lowercase

/-! The keys of a cache. An entity is filed under its type and identifier. A root
field is filed under a key made of its type, its identifier and its other
arguments, so that two requests that filter differently are kept apart. -/
namespace GraphCache

/-- A value of the wrong kind stands where a key or an answer was to be read. -/
inductive Malformed where
  /-- The value has no such operation. -/
  | lacks (kind operation : String)
  /-- The value cannot be looked up. -/
  | unhashable (kind : String)
  /-- The value cannot be followed by a text. -/
  | notText (kind : String)
  /-- The value has no parts. -/
  | noParts (kind : String)
  /-- The part at a position has no parts of its own. -/
  | single (position : Nat)
  /-- The part at a position is no pair. -/
  | notPair (position length : Nat)
deriving DecidableEq, Repr

def Malformed.message : Malformed → String
  | lacks kind operation => "'" ++ kind ++ "' object has no attribute '" ++ operation ++ "'"
  | unhashable kind => "unhashable type: '" ++ kind ++ "'"
  | notText kind =>
    if kind = "list" then "can only concatenate list (not \"str\") to list"
    else "unsupported operand type(s) for +: '" ++ kind ++ "' and 'str'"
  | noParts kind => "'" ++ kind ++ "' object is not iterable"
  | single position =>
    "cannot convert dictionary update sequence element #" ++ toString position ++ " to a sequence"
  | notPair position length =>
    "dictionary update sequence element #" ++ toString position ++ " has length " ++
      toString length ++ "; 2 is required"

/-- The key under which an entity is filed. -/
def entityKey (typeName identifier : String) : String :=
  Text.lowercase typeName ++ "--" ++ identifier

/-- What something is filed under, a key or a type. It is a text, unless another value
has taken the place of the type mark. -/
inductive Label where
  | text (value : String)
  | displaced (mark : Json)
deriving DecidableEq, Repr

namespace Label

instance : Inhabited Label := ⟨text ""⟩

def ofJson : Json → Label
  | .string value => text value
  | mark => displaced mark

/-- Whether a label says anything. -/
def isTruthy : Label → Bool
  | text value => !value.isEmpty
  | displaced mark => mark.isTruthy

def toJson : Label → Json
  | text value => .string value
  | displaced mark => mark

/-- The label as a table keeps it, which has only texts. -/
def toText : Label → String
  | text value => value
  | displaced (.bool value) => if value then "1" else "0"
  | displaced mark => mark.display

/-- The key of an entity of a type, which must be a text. -/
def entityKey : Label → (identifier : String) → Except Malformed String
  | text name, identifier => .ok (GraphCache.entityKey name identifier)
  | displaced mark, _ => .error (.lacks mark.kindName "lower")

/-- Refuses what cannot be looked up: lists and objects. -/
def hashable : Label → Except Malformed Label
  | displaced (.object fields) => .error (.unhashable (Json.object fields).kindName)
  | displaced (.array items) => .error (.unhashable (Json.array items).kindName)
  | label => .ok label

/-- The primary key under which a table looks a label up, if it is one. An object
names the column of the key. -/
def rowKey? : Label → Option String
  | text value => some value
  | displaced (.array _) => none
  | displaced (.object fields) =>
    match OrderedMap.get? fields "cache_key" with
    | none => none
    | some (.object _) => none
    | some (.array _) => none
    | some value => some (ofJson value).toText
  | label => some label.toText

end Label

/-- The fields of a value from which something is to be taken, which only an object
allows. -/
def fieldsFor (operation : String) : Json → Except Malformed (OrderedMap String Json)
  | .object fields => .ok fields
  | other => .error (.lacks other.kindName operation)

/-- Reads a node from which something is to be taken. -/
def Node.ofJson (operation : String) (value : Json) : Except Malformed Node :=
  (fieldsFor operation value).map Node.ofFields

/-- Reads the nodes of a prototype or of fragments, all of which are to be gone through. -/
def Prototype.ofJson (fields : OrderedMap String Json) : Except Malformed Prototype :=
  fields.mapM fun entry => return (entry.1, ← Node.ofJson "items" entry.2)

namespace Node

/-- The type mark; an absent one is an empty text. -/
def typeLabel (node : Node) : Label :=
  match node.typeName with
  | .string name => .text name
  | other => if other.isTruthy then .displaced other else .text ""

/-- The key of the entity that a node asks for, or the node's type if it does not
ask for a particular one. -/
def cacheKey (node : Node) : Except Malformed Label :=
  match node.identifier with
  | .null => .ok node.typeLabel
  | identifier => (node.typeLabel.entityKey identifier.display).map .text

/-- The arguments of a node by name. -/
def argumentFields (node : Node) : Except Malformed (OrderedMap String Json) :=
  match node.arguments with
  | .object fields => .ok fields
  | other => if other.isTruthy then .error (.lacks other.kindName "items") else .ok []

/-- The arguments that are no identifiers. -/
def filters (node : Node) (custom : Option String) : Except Malformed (OrderedMap String Json) := do
  return (← node.argumentFields).filter fun entry => !(identifierNames custom).contains entry.1

/-- The key under which a root field's answer is indexed. -/
def queryKey (node : Node) (custom : Option String) : Except Malformed Label := do
  let filters ← node.filters custom
  let key ← node.cacheKey
  if filters.isEmpty then return key
  match key with
  | .text key => return .text (key ++ Json.print Json.keyStyle (.object filters))
  | .displaced mark => throw (.notText mark.kindName)

end Node
end GraphCache
