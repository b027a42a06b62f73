import GraphCache.Prototype.Key
import GraphCache.Text.Search

/-! What a mutation does to the cache. The caller's map says which mutations change
which type; a mutation whose name speaks of creation only adds, and any other one may
change whatever has been cached. -/
namespace GraphCache

/-- Words in the name of a mutation that only adds. -/
def creationWords : List String := ["add", "new", "create", "make"]

def isInsertName (name : String) : Bool := creationWords.any fun word => Text.mentions word name

/-- Whether a root's type mark names a creation. A selection that has taken the place
of the mark does so if it selects a field of such a name. -/
def isInsertType : Json → Bool
  | .string name => isInsertName name
  | .object fields => creationWords.any fun word => OrderedMap.contains fields word
  | _ => false

/-- The type mark of a root; an absent one is an empty text. -/
def Node.mutationType (node : Node) : Json := node.typeLabel.toJson

/-- Whether a root is named in a map, by its response key or by its type. -/
def isMapped (names : List String) (root : String) (node : Node) : Except Malformed Bool :=
  if names.contains (Text.lowercase root) then .ok true
  else
    match node.mutationType with
    | .string name => .ok (names.contains name)
    | .object fields => .error (.unhashable (Json.object fields).kindName)
    | .array items => .error (.unhashable (Json.array items).kindName)
    | _ => .ok false

/-- The first root that a map names. -/
def findMutation (names : List String) : Prototype → Except Malformed (Option (String × Node))
  | [] => .ok none
  | (root, node) :: rest => do
    if ← isMapped names root node then return some (root, node)
    else findMutation names rest

/-- The first root that a map names, of a prototype that is given as fields. Of roots that
are no objects only the response key tells whether they are named. -/
def findMutationKey (names : List String) : OrderedMap String Json → Except Malformed (Option String)
  | [] => .ok none
  | (root, value) :: rest => do
    if names.contains (Text.lowercase root) then return some root
    if ← isMapped names root (← Node.ofJson "get" value) then return some root
    findMutationKey names rest

/-- The names in a caller's map, without regard to case. -/
def mappedNames (map : OrderedMap String Json) : List String :=
  map.map fun entry => Text.lowercase entry.1

end GraphCache
