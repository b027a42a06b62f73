import GraphCache.Yaml.Plain
import GraphCache.Yaml.Token

/-! The nodes of a document. Nodes are known by number, so that one that is met again
under its name is the same node, even inside itself. -/
namespace GraphCache
namespace Yaml

/-- What a node consists of: a text, or other nodes by number. -/
inductive Content where
  | text (text : String)
  | list (items : List Nat)
  | mapping (entries : List (Nat × Nat))
deriving DecidableEq, Repr

structure Node where
  kind : Kind
  content : Content
deriving DecidableEq, Repr

instance : Inhabited Node := ⟨⟨.nothing, .text ""⟩⟩

/-- A document that is read up to the next token: its nodes, the numbers of those that
have names, and what handles of tags stand for. -/
structure Draft where
  tokens : List Token
  fault : Option Fault
  nodes : Array Node
  names : List (String × Nat)
  handles : List (String × String)

abbrev DraftM := StateT Draft (Except Fault)

namespace Draft

/-- The next token, if there is one. -/
def peek : DraftM (Option Token) := do
  let draft ← get
  match draft.tokens, draft.fault with
  | token :: _, _ => return some token
  | [], some fault => throw fault
  | [], none => return none

def pop : DraftM Unit := modify fun draft => { draft with tokens := draft.tokens.drop 1 }

/-- Takes the next token if it is this one. -/
def take (token : Token) : DraftM Bool := do
  if (← peek) = some token then
    pop
    return true
  return false

/-- Whether the next token is one of these. -/
def comes (tokens : List Token) : DraftM Bool := do
  match ← peek with
  | some token => return tokens.contains token
  | none => return false

/-- Adds a node. -/
def add (node : Node) : DraftM Nat := do
  let draft ← get
  set { draft with nodes := draft.nodes.push node }
  return draft.nodes.size

/-- A value that is left out. -/
def addNothing : DraftM Nat := add ⟨.nothing, .text ""⟩

/-- Gives a node its parts. -/
def fill (number : Nat) (content : Content) : DraftM Unit :=
  modify fun draft =>
    { draft with nodes := draft.nodes.modify number fun node => { node with content } }

/-! ## Properties -/

/-- The name and the tag before a value. -/
structure Properties where
  name : Option String
  tag : Option String

def takeName : DraftM (Option String) := do
  match ← peek with
  | some (.anchor name) =>
    pop
    return some name
  | _ => return none

def takeTag : DraftM (Option Tag) := do
  match ← peek with
  | some (.tag tag) =>
    pop
    return some tag
  | _ => return none

/-- What a tag says in full. -/
def expand (tag : Tag) : DraftM String := do
  match tag.handle with
  | none => return tag.suffix
  | some handle =>
    match ((← get).handles.find? (·.1 == handle)).map Prod.snd with
    | some stands => return stands ++ tag.suffix
    | none => throw .unknownHandle

/-- A name and a tag in either order. -/
def takeProperties : DraftM Properties := do
  let first ← takeName
  let tag ← takeTag
  let name ← if first.isNone && tag.isSome then takeName else pure first
  return ⟨name, ← tag.mapM expand⟩

/-- The kind of a value whose tag says nothing, or what the tag says. -/
def Properties.kind (properties : Properties) (standard : Kind) : Kind :=
  match properties.tag with
  | none => standard
  | some tag => if tag = "!" then standard else Kind.ofTag tag

/-- The kind of a text. Without a tag only a plain one tells by its form what it is. -/
def Properties.textKind (properties : Properties) (text : String) (plain : Bool) : Kind :=
  properties.kind (if plain || properties.tag.isSome then Kind.ofPlain text else .text)

/-- Adds a node with properties. No name is given twice. -/
def addNamed (properties : Properties) (node : Node) : DraftM Nat := do
  match properties.name with
  | none => add node
  | some name =>
    if (← get).names.any (·.1 == name) then throw .repeatedName
    let number ← add node
    modify fun draft => { draft with names := (name, number) :: draft.names }
    return number

/-! ## Values -/

mutual

/-- Reads a value. Indentation opens lists and mappings only in a `block`, and there a list
under a key may stand as far left as the key if `level` allows it. Of nested calls every
second one takes a token at least. -/
def readValue : Nat → (block level : Bool) → DraftM Nat
  | 0, _, _ => throw .tooDeep
  | fuel + 1, block, level => do
    if let some (.reference name) ← peek then
      pop
      match (← get).names.find? (·.1 == name) with
      | some (_, number) => return number
      | none => throw .unknownName
    let properties ← takeProperties
    let list := Node.mk (properties.kind .list) (.list [])
    let mapping := Node.mk (properties.kind .mapping) (.mapping [])
    match ← peek with
    | some .item =>
      if level then
        let number ← addNamed properties list
        fill number (.list (← readLevelItems fuel))
        return number
      else missing properties
    | some (.text text plain) =>
      pop
      addNamed properties ⟨properties.textKind text plain, .text text⟩
    | some .flowList =>
      pop
      let number ← addNamed properties list
      fill number (.list (← readFlowItems fuel true))
      return number
    | some .flowMapping =>
      pop
      let number ← addNamed properties mapping
      fill number (.mapping (← readFlowEntries fuel true))
      return number
    | some .blockList =>
      if block then
        pop
        let number ← addNamed properties list
        fill number (.list (← readItems fuel))
        return number
      else missing properties
    | some .blockMapping =>
      if block then
        pop
        let number ← addNamed properties mapping
        fill number (.mapping (← readEntries fuel))
        return number
      else missing properties
    | _ => missing properties

/-- A value of which there are only properties. -/
def missing (properties : Properties) : DraftM Nat :=
  if properties.name.isSome || properties.tag.isSome then
    addNamed properties ⟨properties.textKind "" true, .text ""⟩
  else throw .contentExpected

/-- Reads a value unless one of these tokens comes. -/
def readUnless : Nat → (block level : Bool) → List Token → DraftM Nat
  | 0, _, _, _ => throw .tooDeep
  | fuel + 1, block, level, tokens => do
    if ← comes tokens then addNothing else readValue fuel block level

/-- Reads the items of a list up to its end. -/
def readItems : Nat → DraftM (List Nat)
  | 0 => throw .tooDeep
  | fuel + 1 => do
    if ← take .item then
      let item ← readUnless fuel true false [.item, .blockEnd]
      return item :: (← readItems fuel)
    if ← take .blockEnd then return []
    throw .endExpected

/-- Reads the items of a list that stands as far left as its key. -/
def readLevelItems : Nat → DraftM (List Nat)
  | 0 => throw .tooDeep
  | fuel + 1 => do
    if ← take .item then
      let item ← readUnless fuel true false [.item, .key, .value, .blockEnd]
      return item :: (← readLevelItems fuel)
    return []

/-- Reads the entries of a mapping up to its end. A key or a value may be left out. -/
def readEntries : Nat → DraftM (List (Nat × Nat))
  | 0 => throw .tooDeep
  | fuel + 1 => do
    let ends : List Token := [.key, .value, .blockEnd]
    if ← take .key then
      let key ← readUnless fuel true true ends
      let value ← if ← take .value then readUnless fuel true true ends else addNothing
      return (key, value) :: (← readEntries fuel)
    if ← take .blockEnd then return []
    throw .endExpected

/-- Reads the items of a list in brackets; a pair is a mapping of its own. -/
def readFlowItems : Nat → (first : Bool) → DraftM (List Nat)
  | 0, _ => throw .tooDeep
  | fuel + 1, first => do
    if ← take .flowListEnd then return []
    if !first then
      if !(← take .comma) then throw .commaExpected
    if ← take .key then
      let number ← add ⟨.mapping, .mapping []⟩
      let key ← readUnless fuel false false [.value, .comma, .flowListEnd]
      let value ←
        if ← take .value then readUnless fuel false false [.comma, .flowListEnd] else addNothing
      fill number (.mapping [(key, value)])
      return number :: (← readFlowItems fuel false)
    if ← take .flowListEnd then return []
    let item ← readValue fuel false false
    return item :: (← readFlowItems fuel false)

/-- Reads the entries of a mapping in brackets. A key that no colon follows has no
value. -/
def readFlowEntries : Nat → (first : Bool) → DraftM (List (Nat × Nat))
  | 0, _ => throw .tooDeep
  | fuel + 1, first => do
    if ← take .flowMappingEnd then return []
    if !first then
      if !(← take .comma) then throw .commaExpected
    if ← take .key then
      let key ← readUnless fuel false false [.value, .comma, .flowMappingEnd]
      let value ←
        if ← take .value then readUnless fuel false false [.comma, .flowMappingEnd]
        else addNothing
      return (key, value) :: (← readFlowEntries fuel false)
    if ← take .flowMappingEnd then return []
    let key ← readValue fuel false false
    return (key, ← addNothing) :: (← readFlowEntries fuel false)

end

/-! ## Documents -/

/-- The handles that every document knows. -/
def standardHandles : List (String × String) := [("!", "!"), ("!!", standardTags)]

/-- Reads the directives before a document. The version is told once at most, and only the
first one is known. -/
def readDirectives : Nat → (versioned : Bool) → DraftM Unit
  | 0, _ => throw .tooDeep
  | rounds + 1, versioned => do
    match ← peek with
    | some (.directive (.version major)) =>
      if versioned || major ≠ 1 then throw .badDirective
      pop
      readDirectives rounds true
    | some (.directive (.handle name stands)) =>
      if (← get).handles.any (·.1 == name) then throw .badDirective
      modify fun draft => { draft with handles := draft.handles ++ [(name, stands)] }
      pop
      readDirectives rounds versioned
    | some (.directive .other) =>
      pop
      readDirectives rounds versioned
    | _ => return

/-- Reads marks that end a document. -/
def readEnds : Nat → DraftM Unit
  | 0 => return
  | rounds + 1 => do
    if ← take .documentEnd then readEnds rounds

/-- Reads the only document, and gives the number of its first node, if there is one. -/
def readDocument (fuel : Nat) : DraftM (Option Nat) := do
  match ← peek with
  | none => return none
  | some .documentStart | some (.directive _) =>
    readDirectives fuel false
    modify fun draft => { draft with handles := draft.handles ++ standardHandles }
    if !(← take .documentStart) then throw .documentExpected
    let root ←
      match ← peek with
      | none | some .documentStart | some .documentEnd | some (.directive _) => addNothing
      | some _ => readValue fuel true false
    finish fuel root
  | some _ =>
    modify fun draft => { draft with handles := standardHandles }
    finish fuel (← readValue fuel true false)
where
  /-- Nothing may follow the document. -/
  finish (fuel : Nat) (root : Nat) : DraftM (Option Nat) := do
    readEnds fuel
    if (← peek).isSome then throw .secondDocument
    return some root

end Draft

/-- The nodes of a document and the number of its first one. -/
structure Document where
  nodes : Array Node
  root : Option Nat

/-- The document of a text. -/
def Document.ofTokens (tokens : Tokens) : Except Fault Document := do
  let fuel := 4 * tokens.tokens.length + 8
  let (root, draft) ← (Draft.readDocument fuel).run ⟨tokens.tokens, tokens.fault, #[], [], []⟩
  return ⟨draft.nodes, root⟩

end Yaml
end GraphCache
