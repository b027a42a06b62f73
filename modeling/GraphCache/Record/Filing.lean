import GraphCache.Prototype.Key
import GraphCache.Record.Basic

/-! Filing an answer: its objects become records under the prototype's guidance.
Objects are met in post-order, so an object is filed after the objects inside it,
whether or not it can be addressed itself. Objects that are met under one key are
one entity, and its later values win. -/
namespace GraphCache

/-- A map of names given by a caller, with names and values in lower case. -/
def lowerNames (map : OrderedMap String Json) : OrderedMap String String :=
  OrderedMap.ofList (map.map fun entry =>
    (Text.lowercase entry.1, Text.lowercase entry.2.display))

/-- The identifier of an object as text: its first identifier field that is not
null. -/
def entityIdOf (object : OrderedMap String Json) (custom : Option String) : Option String :=
  (identifierNames custom).findSome? fun name =>
    match OrderedMap.get? object name with
    | none => none
    | some .null => none
    | some value => some value.display

/-- What a name is mapped to, unless that is nothing. -/
def mappedLabel? (map : OrderedMap String Label) (name : String) : Option Label :=
  (OrderedMap.get? map name).filter Label.isTruthy

/-- The category under which the objects of a field are filed. The field's type, or
else its key, may be mapped to another type, and that type to a category. -/
def category (fieldMap typeMap : OrderedMap String Label) (fieldKey : String) (node : Node) :
    Except Malformed Label := do
  let lowerKey := Text.lowercase fieldKey
  let fieldType : Label :=
    match node.typeLabel with
    | .text "" => .text lowerKey
    | label => label
  let mapped :=
    match ← fieldType.hashable with
    | .text name => mappedLabel? fieldMap name
    | .displaced _ => none
  match ← ((mapped <|> mappedLabel? fieldMap lowerKey).getD fieldType).hashable with
  | .text name => return (OrderedMap.get? typeMap name).getD (.text name)
  | label => return label

/-- A map of names as one of labels. -/
def labels (map : OrderedMap String String) : OrderedMap String Label :=
  map.map fun entry => (entry.1, .text entry.2)

/-- The objects a value consists of: those in a list, or the value itself. -/
def objectsOf : Json → List (OrderedMap String Json)
  | .array items => items.filterMap Json.fields?
  | .object fields => [fields]
  | _ => []

/-- What holds for all objects of one answer. -/
structure Filing (τ : Type) where
  fieldMap : OrderedMap String String
  typeMap : OrderedMap String String
  fromMutation : Bool
  custom : Option String
  expiresAt : Option τ

namespace Filing

variable {τ : Type}

def categoryOf (filing : Filing τ) (fieldKey : String) (node : Node) : Except Malformed Label :=
  category (labels filing.fieldMap) (labels filing.typeMap) fieldKey node

/-- The requested fields that an object carries, in the order of the request. -/
def requestedData (node : Node) (object : OrderedMap String Json) : OrderedMap String Json :=
  OrderedMap.ofList (node.fields.filterMap fun entry =>
    (OrderedMap.get? object entry.1).map fun value => (entry.1, value))

/-- Files one object, and gives its key if it can be addressed. Only a category that is
a text can be part of a key. -/
def fileObject (filing : Filing τ) (node : Node) (category : Label)
    (object : OrderedMap String Json) (batch : Batch τ) :
    Except Malformed (Batch τ × Option String) :=
  match entityIdOf object filing.custom, category with
  | none, _ => .ok (batch, none)
  | some _, .displaced mark => .error (.lacks mark.kindName "lower")
  | some identifier, .text name =>
    let key := entityKey name identifier
    let data := requestedData node object
    let record : Record τ :=
      match OrderedMap.get? batch.entities key with
      | some existing => { existing with data := OrderedMap.overlay existing.data data }
      | none => ⟨key, name, identifier, data, filing.fromMutation, filing.expiresAt⟩
    .ok ({ batch with entities := OrderedMap.insert batch.entities key record }, some key)

mutual

/-- Files the objects that a field of an object leads to, if it is a relation. -/
def fileField (filing : Filing τ) (fieldKey : String) (object : OrderedMap String Json)
    (batch : Batch τ) : Entry → Except Malformed (Batch τ)
  | .relation entries =>
    match OrderedMap.get? object fieldKey with
    | none => .ok batch
    | some .null => .ok batch
    | some value => do
      let category ← filing.categoryOf fieldKey entries
      (objectsOf value).foldlM (fun filed inner => do
        let below ← fileFields filing inner filed entries
        return (← filing.fileObject entries category inner below).1) batch
  | .requested => .ok batch
  | .literal _ => .ok batch

/-- Files the objects that the fields of an object lead to, field by field. -/
def fileFields (filing : Filing τ) (object : OrderedMap String Json) (batch : Batch τ) :
    List (String × Entry) → Except Malformed (Batch τ)
  | [] => .ok batch
  | (key, entry) :: rest => do
    let filed ← if isReserved key then .ok batch else fileField filing key object batch entry
    fileFields filing object filed rest

end

/-- Files the value of a root field and adds its index entry. -/
def fileRoot (filing : Filing τ) (fieldKey : String) (node : Node) (value : Json)
    (batch : Batch τ) : Except Malformed (Batch τ) := do
  let category ← filing.categoryOf fieldKey node
  let (filed, keys) ← (objectsOf value).foldlM (fun state object => do
    let below ← filing.fileFields object state.1 node
    let (filed, key) ← filing.fileObject node category object below
    return (filed, state.2 ++ key.toList)) (batch, ([] : List String))
  let key ← Node.queryKey node filing.custom
  let entry : IndexEntry τ := ⟨key, category, keys, filing.fromMutation, filing.expiresAt⟩
  return { filed with queries := filed.queries ++ [entry] }

/-- Files every root that the data carries. -/
def fileRoots (filing : Filing τ) (data : OrderedMap String Json) :
    Prototype → Batch τ → Except Malformed (Batch τ)
  | [], batch => .ok batch
  | (fieldKey, node) :: rest, batch =>
    match OrderedMap.get? data fieldKey with
    | none => fileRoots filing data rest batch
    | some .null => fileRoots filing data rest batch
    | some value => do
      let filed ← filing.fileRoot fieldKey node value batch
      fileRoots filing data rest filed

end Filing

/-- The data of an answer as an object. Nothing at all counts as an empty one; any
other value has no fields to read. -/
def dataFields (data : Json) : Except Malformed (OrderedMap String Json) :=
  match data with
  | .object fields => .ok fields
  | other => if other.isTruthy then .error (.lacks other.kindName "get") else .ok []

/-- Files the data of an answer. It is only read where the prototype has a root. -/
def Filing.batchOf {τ : Type} (filing : Filing τ) (prototype : Prototype) (data : Json) :
    Except Malformed (Batch τ) :=
  if prototype.isEmpty then .ok .empty
  else do filing.fileRoots (← dataFields data) prototype .empty

/-- Files the data of an answer under a prototype that is given as fields. Of these a
root that is no object describes nothing, but the data is read for it all the same. -/
def Filing.batchOfFields {τ : Type} (filing : Filing τ) (fields : OrderedMap String Json)
    (data : Json) : Except Malformed (Batch τ) :=
  if fields.isEmpty then .ok .empty
  else do filing.fileRoots (← dataFields data) (Prototype.ofFields fields) .empty

end GraphCache
