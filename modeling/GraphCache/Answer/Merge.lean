import GraphCache.Record.Filing

/-! Completing a fresh answer from cached records. The result holds exactly what
the prototype requests. A field that the fresh answer carries always wins, even
when it is null; a cached value only fills a field that the fresh answer lacks
altogether, and a field that neither side has is null. Items of a list are paired
with cached items by their identifiers. A side that lacks a value is `none`. -/
namespace GraphCache

/-- The items of a cached list that can be paired, by identifier. Of items with the
same identifier the last one counts. -/
def identifiedItems (custom : Option String) (items : List Json) : OrderedMap String Json :=
  OrderedMap.ofList (items.filterMap fun item => do
    let fields ← item.fields?
    let identifier ← entityIdOf fields custom
    if identifier.isEmpty then none else some (identifier, item))

/-- The cached item with the identifier of a fresh one. -/
def pairedItem? (custom : Option String) (cached : OrderedMap String Json)
    (item : OrderedMap String Json) : Option Json :=
  (entityIdOf item custom).bind (OrderedMap.get? cached ·)

/-- Merges the items of a list, given how two objects are merged. A fresh list keeps
its items that are no objects; without one the cached items are taken. -/
def mergeItems (custom : Option String) (mergeObjects : Option Json → Option Json → Json)
    (fresh : Option (List Json)) (cached : List Json) : Json :=
  match fresh with
  | none => .array (cached.map fun item => mergeObjects none (some item))
  | some items =>
    let known := identifiedItems custom cached
    .array (items.map fun item =>
      match item with
      | .object fields => mergeObjects (some item) (pairedItem? custom known fields)
      | other => other)

/-- The items of a side that is a list. -/
def listItems : Option Json → List Json
  | some (.array items) => items
  | _ => []

/-- The fields of a side that is an object. -/
def objectFields : Option Json → OrderedMap String Json
  | some (.object fields) => fields
  | _ => []

/-- Merges the values of a relation, given how two objects are merged. The fresh
value, or else the cached one, decides whether the result is a list. -/
def mergeRelation (custom : Option String) (mergeObjects : Option Json → Option Json → Json)
    (fresh cached : Option Json) : Json :=
  match fresh, cached with
  | some .null, _ => .null
  | some (.array items), cached => mergeItems custom mergeObjects (some items) (listItems cached)
  | some value, cached => mergeObjects (some value) cached
  | none, none => .null
  | none, some .null => .null
  | none, some (.array items) => mergeItems custom mergeObjects none items
  | none, some value => mergeObjects none (some value)

mutual

/-- Merges the values under one requested key. -/
def Entry.merge (custom : Option String) (fresh cached : Option Json) : Entry → Json
  | .relation entries =>
    mergeRelation custom (fun fresh cached =>
      .object (Entry.mergeFields custom (objectFields fresh) (objectFields cached) entries))
      fresh cached
  | .requested => ((fresh <|> cached).getD .null)
  | .literal _ => ((fresh <|> cached).getD .null)

/-- Merges two objects: the requested fields in the order of the request. -/
def Entry.mergeFields (custom : Option String) (fresh cached : OrderedMap String Json) :
    List (String × Entry) → OrderedMap String Json
  | [] => []
  | (key, entry) :: rest =>
    let others := Entry.mergeFields custom fresh cached rest
    if isReserved key then others
    else
      (key, entry.merge custom (OrderedMap.get? fresh key) (OrderedMap.get? cached key)) :: others

end

/-- Merges two objects under a node. -/
def Node.mergeObjects (custom : Option String) (node : Node) (fresh cached : Option Json) : Json :=
  .object (Entry.mergeFields custom (objectFields fresh) (objectFields cached) node)

/-- Merges the values of a root. -/
def Node.merge (custom : Option String) (node : Node) (fresh cached : Option Json) : Json :=
  mergeRelation custom (node.mergeObjects custom) fresh cached

/-- The cached records of a root as a value: one object where the request names an
identifier, a list otherwise. -/
def cachedRoot {τ : Type} (node : Node) : List (Record τ) → Option Json
  | [] => none
  | first :: rest =>
    if node.identifier.isNull then
      some (.array ((first :: rest).map fun record => .object record.data))
    else some (.object first.data)

/-- Why a value cannot be the name and the value of a field, if it is none. -/
def pairFault? (item : Json) (position : Nat) : Option Malformed :=
  let counted (length : Nat) : Option Malformed :=
    if length = 2 then none else some (.notPair position length)
  match item with
  | .array [.array items, _] => some (.unhashable (Json.array items).kindName)
  | .array [.object fields, _] => some (.unhashable (Json.object fields).kindName)
  | .array items => counted items.length
  | .object fields => counted fields.length
  | .string text => counted text.length
  | _ => some (.single position)

/-- Fresh data as fields. A list could only be one of pairs, and from that no field is
read. -/
def freshFields (data : Json) : Except Malformed (OrderedMap String Json) :=
  match data with
  | .object fields => .ok fields
  | .array (first :: rest) =>
    let faults := (first :: rest).zipIdx.filterMap fun (item, position) => pairFault? item position
    .error (faults.headD (.lacks data.kindName "get"))
  | .string text => if text.isEmpty then .ok [] else .error (.notPair 0 1)
  | other => if other.isTruthy then .error (.noParts other.kindName) else .ok []

/-- Merges the values of a root that is given as a value. Under one that is no object, only
nothing and lists without objects have a place. -/
def mergeGiven {τ : Type} (custom : Option String) (root : Json) (fresh : Option Json)
    (records : List (Record τ)) : Except Malformed Json :=
  match root, records, fresh with
  | .object fields, records, fresh =>
    let node := Node.ofFields fields
    .ok (node.merge custom fresh (cachedRoot node records))
  | root, _ :: _, _ => .error (.lacks root.kindName "get")
  | _, [], none => .ok .null
  | _, [], some .null => .ok .null
  | root, [], some (.array items) =>
    if items.any Json.isObject then .error (.lacks root.kindName "items") else .ok (.array items)
  | root, [], some _ => .error (.lacks root.kindName "items")

/-- Merges an answer's data with the cached records of each root of a prototype that is
given as fields. -/
def mergeFields {τ : Type} (custom : Option String) (roots fresh : OrderedMap String Json)
    (cached : OrderedMap String (List (Record τ))) : Except Malformed (OrderedMap String Json) :=
  roots.foldlM (fun merged entry => do
    let records := (OrderedMap.get? cached entry.1).getD []
    let value ← mergeGiven custom entry.2 (OrderedMap.get? fresh entry.1) records
    return OrderedMap.insert merged entry.1 value) fresh

/-- Merges an answer's data with the cached records of each root. Roots that the
prototype does not know stay as they are. -/
def Prototype.merge {τ : Type} (custom : Option String) (prototype : Prototype)
    (fresh : OrderedMap String Json) (cached : OrderedMap String (List (Record τ))) :
    OrderedMap String Json :=
  prototype.foldl (fun merged entry =>
    let (root, node) := entry
    OrderedMap.insert merged root
      (node.merge custom (OrderedMap.get? fresh root)
        (cachedRoot node ((OrderedMap.get? cached root).getD [])))) fresh

end GraphCache
