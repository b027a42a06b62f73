import GraphCache.Document.Basic
import GraphCache.Json.Reader
import GraphCache.Prototype.Basic
import GraphCache.Prototype.Identifier
import GraphCache.Text.Lowercase

/-! Compiling a document into a prototype. A document is visited depth first, and
each visit changes the state of one walk: where it stands, what the field there
was marked with, and the trees written so far. The walk ends at the first
obstacle, a place that keeps the whole document from being cached. -/
namespace GraphCache

/-! ## Values of arguments -/

mutual

/-- The value of a literal inside a list or an object. -/
def Literal.value : Literal → Json
  | .parameter _ => .null
  | .int digits =>
    match digits.toList with
    | '-' :: magnitude => .int (-(Written.decimal magnitude : Int))
    | magnitude => .int (Written.decimal magnitude)
  | .float digits =>
    match Json.Numeral.read? digits.toList with
    | some numeral => numeral.value
    | none => .null
  | .string text => .string text
  | .boolean value => .bool value
  | .null => .null
  | .enum name => .string name
  | .list items => .array (Literal.values items)
  | .object fields => .object (OrderedMap.ofList (Literal.fieldValues fields))

def Literal.values : List Literal → List Json
  | [] => []
  | item :: rest => item.value :: Literal.values rest

def Literal.fieldValues : List (String × Literal) → List (String × Json)
  | [] => []
  | (name, value) :: rest => (name, value.value) :: Literal.fieldValues rest

end

/-- The value of an argument. A number at the top level stays as it is written. -/
def Literal.argumentValue : Literal → Json
  | .int digits => .string digits
  | .float digits => .string digits
  | literal => literal.value

mutual

def Literal.hasParameter : Literal → Bool
  | .parameter _ => true
  | .list items => Literal.anyParameter items
  | .object fields => Literal.anyFieldParameter fields
  | _ => false

def Literal.anyParameter : List Literal → Bool
  | [] => false
  | item :: rest => item.hasParameter || Literal.anyParameter rest

def Literal.anyFieldParameter : List (String × Literal) → Bool
  | [] => false
  | (_, value) :: rest => value.hasParameter || Literal.anyFieldParameter rest

end

/-! ## Obstacles -/

/-- Why a document cannot be cached: the shape of its answer is decided by the
server, its arguments are not written out, or an object of its answer could not
be addressed. -/
inductive Reason where
  | directive
  | subscription
  | introspection
  | variableArgument
  | missingIdentifier
  | inlineFragment
deriving DecidableEq, Repr

def Reason.name : Reason → String
  | directive => "directive"
  | subscription => "subscription"
  | introspection => "introspection"
  | variableArgument => "variable_argument"
  | missingIdentifier => "missing_identifier"
  | inlineFragment => "inline_fragment"

/-- A reason and the response keys that lead to the place where it was met. -/
structure Obstacle where
  reason : Reason
  path : List String
deriving DecidableEq, Repr

/-! ## Visits -/

/-- What a depth-first walk meets. Fields and fragments are met twice, before and
after what they contain. -/
inductive Visit where
  | operation (kind : OperationKind) (directives : List Directive)
  | fragment (name : String) (directives : List Directive) (leaves : List String)
  | endFragment
  | field (head : FieldHead)
  | selectionSet (offered : List String)
  | endField
  | inlineFragment
  | other (directives : List Directive)

/-- The response keys of the leaf fields of a selection set. -/
def Selection.leafKeys (selections : List Selection) : List String :=
  selections.filterMap fun selection =>
    match selection with
    | .leaf head => some head.responseKey
    | _ => none

/-- The names a selection set offers directly: the response keys of its leaf fields
and the fragments it spreads. -/
def Selection.offered (selections : List Selection) : List String :=
  selections.filterMap fun selection =>
    match selection with
    | .leaf head => some head.responseKey
    | .spread fragment _ => some fragment
    | _ => none

mutual

/-- The visits of one selection. An inline fragment ends every walk, so nothing in
it is visited. -/
def Selection.visits : Selection → List Visit
  | .leaf head => [.field head, .endField]
  | .relation head selections =>
    .field head :: .selectionSet (Selection.offered selections) ::
      (Selection.visitsOf selections ++ [.endField])
  | .spread _ directives => [.other directives]
  | .inlineFragment .. => [.inlineFragment]

def Selection.visitsOf : List Selection → List Visit
  | [] => []
  | selection :: rest => selection.visits ++ Selection.visitsOf rest

end

def Definition.visits : Definition → List Visit
  | .operation request =>
    .operation request.kind request.directives ::
      (request.parameters.map fun parameter => .other parameter.directives) ++
        Selection.visitsOf request.selections
  | .fragment shared =>
    .fragment shared.name shared.directives (Selection.leafKeys shared.selections) ::
      (Selection.visitsOf shared.selections ++ [.endFragment])
  | .typeSystem directives => directives.map .other

def Document.visits (document : Document) : List Visit :=
  document.definitions.flatMap Definition.visits

/-! ## The walk -/

/-- Names as the fields of a node. -/
def Node.ofNames (names : List String) : Node :=
  OrderedMap.ofList (names.map fun name => (name, .requested))

/-- Sets a relation at a path below a node. Nodes on the way that are missing are
made. -/
def Node.writeAt (node : Node) : (path : List String) → (record : Node) → Node
  | [], _ => node
  | [key], record => OrderedMap.insert node key (.relation record)
  | key :: rest, record =>
    let inner : Node :=
      match OrderedMap.get? node key with
      | some (.relation entries) => entries
      | _ => []
    OrderedMap.insert node key (.relation (writeAt inner rest record))

/-- Sets a node at a path, whose first key names a root. -/
def Prototype.writeAt (prototype : Prototype) : (path : List String) → (record : Node) → Prototype
  | [], _ => prototype
  | [root], record => OrderedMap.insert prototype root record
  | root :: rest, record =>
    OrderedMap.insert prototype root
      (Node.writeAt ((OrderedMap.get? prototype root).getD []) rest record)

/-- The marks of a field. A reserved argument is a mark of its own and
is no part of the arguments. -/
def FieldHead.marks (head : FieldHead) (custom : Option String) : Node :=
  let given := head.arguments.map fun argument => (argument.name, argument.value.argumentValue)
  let reserved := given.filter fun entry => isReserved entry.1
  let arguments := OrderedMap.ofList (given.filter fun entry => !isReserved entry.1)
  let identifier := (firstIdentifier? arguments custom).getD .null
  let written : Node := OrderedMap.overlay [(Mark.identifier, .literal .null)]
    (reserved.map fun entry => (entry.1, .literal entry.2))
  OrderedMap.overlay written
    [(Mark.identifier, .literal identifier),
     (Mark.typeName, .literal (.string (Text.lowercase head.name))),
     (Mark.aliasName, .literal ((head.aliasName.map Json.string).getD .null)),
     (Mark.arguments, .literal (if arguments.isEmpty then .null else .object arguments))]

/-- The state of a walk. `stack` holds the keys that lead to the current place, the
innermost first; `marks` is what each field was marked with, by its path;
`inFragment` tells which of the two trees is being written. -/
structure Walk where
  prototype : Prototype
  fragments : FragmentMap
  inFragment : Bool
  stack : List String
  marks : OrderedMap (List String) Node
  kind : Option OperationKind

def Walk.start : Walk := ⟨[], [], false, [], [], none⟩

def Walk.path (walk : Walk) : List String := walk.stack.reverse

def Walk.meet {α : Type} (walk : Walk) (reason : Reason) : Except Obstacle α :=
  .error ⟨reason, walk.path⟩

/-- Sets a node at the current place of the tree that is being written. -/
def Walk.write (walk : Walk) (record : Node) : Walk :=
  if walk.inFragment then
    { walk with fragments := Prototype.writeAt walk.fragments walk.path record }
  else { walk with prototype := Prototype.writeAt walk.prototype walk.path record }

/-- One visit. Of several obstacles at a field its directives come first, then its
name, then its arguments. -/
def Walk.step (custom : Option String) (walk : Walk) : Visit → Except Obstacle Walk
  | .operation kind directives =>
    if !directives.isEmpty then walk.meet .directive
    else if kind = .subscription then walk.meet .subscription
    else .ok { walk with inFragment := false, kind := some kind }
  | .fragment name directives leaves =>
    if !directives.isEmpty then walk.meet .directive
    else .ok { walk with
      inFragment := true
      stack := name :: walk.stack
      fragments := OrderedMap.insert walk.fragments name (Node.ofNames leaves) }
  | .endFragment => .ok { walk with stack := walk.stack.drop 1 }
  | .field head =>
    if !head.directives.isEmpty then walk.meet .directive
    else if isReserved head.name then walk.meet .introspection
    else if head.arguments.any (·.value.hasParameter) then walk.meet .variableArgument
    else
      let stack := head.responseKey :: walk.stack
      .ok { walk with
        stack := stack
        marks := OrderedMap.insert walk.marks stack (head.marks custom) }
  | .selectionSet offered =>
    if !hasIdentifier offered custom then walk.meet .missingIdentifier
    else
      let marks := (OrderedMap.get? walk.marks walk.stack).getD []
      .ok (walk.write (OrderedMap.overlay (Node.ofNames offered) marks))
  | .endField => .ok { walk with stack := walk.stack.drop 1 }
  | .inlineFragment => walk.meet .inlineFragment
  | .other directives => if !directives.isEmpty then walk.meet .directive else .ok walk

/-- Visits one place after the other, up to the first obstacle. -/
def Walk.run (custom : Option String) : Walk → List Visit → Walk × Option Obstacle
  | walk, [] => (walk, none)
  | walk, visit :: rest =>
    match walk.step custom visit with
    | .ok next => Walk.run custom next rest
    | .error obstacle => (walk, some obstacle)

/-- A compiled document. With an obstacle the trees are incomplete, and only the
names of the roots written so far are ever shown. -/
structure Compilation where
  prototype : Prototype
  fragments : FragmentMap
  kind : Option OperationKind
  obstacle : Option Obstacle

/-- Compiles a document for a custom identifier name. All operations write into one
prototype, and the last one gives its kind. -/
def Document.compile (document : Document) (custom : Option String) : Compilation :=
  let (walk, obstacle) := Walk.run custom Walk.start document.visits
  ⟨walk.prototype, walk.fragments, walk.kind, obstacle⟩

namespace Compilation

/-- Whether answers can be cached: nothing is in the way and there is an operation. -/
def isCacheable (compiled : Compilation) : Bool :=
  compiled.obstacle.isNone && compiled.kind.isSome

/-- The name of the kind under which a document is routed. -/
def kindName (compiled : Compilation) : Option String :=
  match compiled.obstacle, compiled.kind with
  | some _, _ => some "ineligible"
  | none, some .query => some "query"
  | none, some .mutation => some "mutation"
  | none, some .subscription => some "subscription"
  | none, none => none

end Compilation
end GraphCache
