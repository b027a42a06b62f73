import GraphCache.Json.Basic

/-! A prototype describes what a document requests. Under every root's response
key stands a node, which maps the requested fields of an object to what is
requested of them. Beside the fields, and in the same mapping, a node carries
marks: its type, its alias, its arguments and its identifier, under keys
that begin with two underscores. Because fields and marks share the
mapping, a selection whose alias looks like a mark takes its place. -/
namespace GraphCache

/-- What stands under one key of a node. -/
inductive Entry where
  /-- A leaf field, or the name of a fragment that is to be inlined. -/
  | requested
  /-- A relation, with the node of the objects it leads to. -/
  | relation (entries : List (String × Entry))
  /-- Any other value: a mark. -/
  | literal (value : Json)
deriving Repr

/-- The requested fields and the marks of one selection set. -/
abbrev Node := OrderedMap String Entry

/-- The root nodes of a document's operations by response key. -/
abbrev Prototype := OrderedMap String Node

/-- The nodes of a document's fragments by name. -/
abbrev FragmentMap := OrderedMap String Node

/-- Keys that begin with two underscores hold marks, never fields. -/
def isReserved (key : String) : Bool := "__".toList.isPrefixOf key.toList

namespace Mark

def identifier : String := "__id"
def typeName : String := "__type"
def aliasName : String := "__alias"
def arguments : String := "__args"

end Mark

mutual

/-- An entry as a plain value. -/
def Entry.toJson : Entry → Json
  | .requested => .bool true
  | .relation entries => .object (Entry.fieldsToJson entries)
  | .literal value => value

def Entry.fieldsToJson : List (String × Entry) → List (String × Json)
  | [] => []
  | (key, entry) :: rest => (key, entry.toJson) :: Entry.fieldsToJson rest

end

/-- Whether an entry is a mapping, of fields or as a mark. -/
def Entry.isMapping : Entry → Bool
  | .requested => false
  | .relation _ => true
  | .literal value => value.isObject

mutual

/-- Reads an entry that stands under a key: an object under a field's key is a
relation, the value true is a request, anything else is kept as it is. -/
def Entry.ofJson (reserved : Bool) : Json → Entry
  | .bool true => if reserved then .literal (.bool true) else .requested
  | .object fields =>
    if reserved then .literal (.object fields) else .relation (Entry.fieldsOfJson fields)
  | .null => .literal .null
  | .bool false => .literal (.bool false)
  | .int value => .literal (.int value)
  | .float value => .literal (.float value)
  | .string value => .literal (.string value)
  | .array items => .literal (.array items)

def Entry.fieldsOfJson : List (String × Json) → List (String × Entry)
  | [] => []
  | (key, value) :: rest =>
    (key, Entry.ofJson (isReserved key) value) :: Entry.fieldsOfJson rest

end

namespace Node

def toJson (node : Node) : Json := .object (Entry.fieldsToJson node)

def ofFields (fields : List (String × Json)) : Node := Entry.fieldsOfJson fields

/-- The requested fields, without the marks. -/
def fields (node : Node) : List (String × Entry) := node.filter (!isReserved ·.1)

/-- The value of a mark; an absent one is null. -/
def mark (node : Node) (key : String) : Json :=
  ((OrderedMap.get? node key).map Entry.toJson).getD .null

def typeName (node : Node) : Json := mark node Mark.typeName

def identifier (node : Node) : Json := mark node Mark.identifier

def arguments (node : Node) : Json := mark node Mark.arguments

end Node

namespace Prototype

def toJson (prototype : Prototype) : Json :=
  .object (prototype.map fun entry => (entry.1, Node.toJson entry.2))

/-- Reads a prototype or a fragment map; a root that is no object describes
nothing. -/
def ofFields (fields : List (String × Json)) : Prototype :=
  fields.filterMap fun entry => entry.2.fields?.map fun inner => (entry.1, Node.ofFields inner)

end Prototype
end GraphCache
