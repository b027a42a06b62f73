import GraphCache.Json.Printer
import GraphCache.Settings.Moment

/-! Settings before they are checked: trees of lists and mappings over scalars, as
they come from a file, from variables or from a caller. Trees are layered by laying
one over another: mappings are joined key by key, and anything else replaces what
lies below it. -/
namespace GraphCache

inductive Scalar where
  | null
  | bool (value : Bool)
  | int (value : Int)
  | float (value : Binary64)
  | text (value : String)
  | moment (value : Moment)
  | bytes (value : List UInt8)
deriving DecidableEq, Repr

inductive Tree where
  | scalar (value : Scalar)
  | list (items : List Tree)
  | mapping (entries : List (Scalar × Tree))
  /-- One of the pairs that make an ordered mapping with repeated keys. -/
  | pair (key value : Tree)
  | set (members : List Scalar)
  /-- A list or a mapping that contains itself, which no tree can: how it is shown, and
  what is inside it down to a depth that is enough for every check. -/
  | cyclic (shown : String) (inside : Tree)
deriving Repr

/-- A mapping's entries, in order. -/
abbrev Entries := OrderedMap Scalar Tree

namespace Scalar

/-- A scalar inside a list or a mapping. -/
def literal : Scalar → String
  | null => Json.literal .null
  | bool value => Json.literal (.bool value)
  | int value => Json.literal (.int value)
  | float value => Json.literal (.float value)
  | text value => Text.quoted value
  | moment value => value.literal
  | bytes value => Text.quotedBytes value

def display : Scalar → String
  | text value => value
  | moment value => value.display
  | scalar => scalar.literal

/-- A scalar as a step of a path: texts as they are, truth values as numbers. -/
def step : Scalar → String
  | text value => value
  | bool value => if value then "1" else "0"
  | scalar => scalar.literal

/-- The name of a scalar's kind, as messages give it. -/
def kindName : Scalar → String
  | null => "NoneType"
  | bool _ => "bool"
  | int _ => "int"
  | float _ => "float"
  | text _ => "str"
  | moment value => if value.time.isNone then "datetime.date" else "datetime.datetime"
  | bytes _ => "bytes"

/-- Whether a scalar counts as present. -/
def isTruthy : Scalar → Bool
  | null => false
  | bool value => value
  | int value => value != 0
  | float value => !value.isZero
  | text value => !value.isEmpty
  | moment _ => true
  | bytes value => !value.isEmpty

/-! ## Keys -/

/-- What distinguishes keys. -/
inductive Key where
  | number (value : Int)
  | instant (microseconds : Int)
  | scalar (value : Scalar)
deriving DecidableEq, Repr

/-- As keys, numbers are the same that have the same value, truth values among them, and
moments that name the same point of time. -/
def key : Scalar → Key
  | bool value => .number (if value then 1 else 0)
  | int value => .number value
  | float value => (value.toInt?.map Key.number).getD (.scalar (.float value))
  | moment value => (value.instant?.map Key.instant).getD (.scalar (.moment value))
  | value => .scalar value

/-- A key in the spelling in which it is already present. -/
def spelledIn {α : Type} (key : Scalar) (entries : OrderedMap Scalar α) : Scalar :=
  ((entries.find? fun entry => entry.1.key = key.key).map Prod.fst).getD key

/-- Writes one key. It keeps its place and its spelling. -/
def write {α : Type} (entries : OrderedMap Scalar α) (key : Scalar) (value : α) :
    OrderedMap Scalar α :=
  OrderedMap.insert entries (key.spelledIn entries) value

end Scalar

namespace Tree

instance : Inhabited Tree := ⟨scalar .null⟩

mutual

/-- Whether two trees are equal: entries in the same order, keys in the same spelling. -/
def equals : Tree → Tree → Bool
  | scalar one, scalar two => decide (one = two)
  | list one, list two => equalItems one two
  | mapping one, mapping two => equalEntries one two
  | pair key value, pair other held => equals key other && equals value held
  | set one, set two => decide (one = two)
  | cyclic shown inside, cyclic other held => decide (shown = other) && equals inside held
  | _, _ => false

def equalItems : List Tree → List Tree → Bool
  | [], [] => true
  | one :: ones, two :: twos => equals one two && equalItems ones twos
  | _, _ => false

def equalEntries : List (Scalar × Tree) → List (Scalar × Tree) → Bool
  | [], [] => true
  | (key, one) :: ones, (other, two) :: twos =>
    decide (key = other) && equals one two && equalEntries ones twos
  | _, _ => false

end

mutual

theorem equals_iff (one two : Tree) : equals one two = true ↔ one = two := by
  cases one <;> cases two <;>
    simp [equals, equalItems_iff, equalEntries_iff, equals_iff]

theorem equalItems_iff (ones twos : List Tree) : equalItems ones twos = true ↔ ones = twos := by
  cases ones <;> cases twos <;> simp [equalItems, equals_iff, equalItems_iff]

theorem equalEntries_iff (ones twos : List (Scalar × Tree)) :
    equalEntries ones twos = true ↔ ones = twos := by
  rcases ones with _ | ⟨⟨key, one⟩, ones⟩ <;> rcases twos with _ | ⟨⟨other, two⟩, twos⟩ <;>
    simp [equalEntries, equals_iff, equalEntries_iff]

end

instance : DecidableEq Tree := fun one two => decidable_of_iff _ (equals_iff one two)

def null : Tree := scalar .null

def text (value : String) : Tree := scalar (.text value)

mutual

def literal : Tree → String
  | scalar value => value.literal
  | list items => "[" ++ ", ".intercalate (literalItems items) ++ "]"
  | mapping entries => "\x7b" ++ ", ".intercalate (literalEntries entries) ++ "\x7d"
  | pair key value => "(" ++ literal key ++ ", " ++ literal value ++ ")"
  | set members =>
    if members.isEmpty then "set()"
    else "\x7b" ++ ", ".intercalate (members.map Scalar.literal) ++ "\x7d"
  | cyclic shown _ => shown

def literalItems : List Tree → List String
  | [] => []
  | item :: rest => literal item :: literalItems rest

def literalEntries : List (Scalar × Tree) → List String
  | [] => []
  | (key, value) :: rest => (key.literal ++ ": " ++ literal value) :: literalEntries rest

end

/-- The reading form of a tree, as messages give it. -/
def display : Tree → String
  | scalar value => value.display
  | tree => tree.literal

mutual

def ofJson : Json → Tree
  | .null => scalar .null
  | .bool value => scalar (.bool value)
  | .int value => scalar (.int value)
  | .float value => scalar (.float value)
  | .string value => scalar (.text value)
  | .array items => list (ofItems items)
  | .object fields => mapping (ofFields fields)

def ofItems : List Json → List Tree
  | [] => []
  | item :: rest => ofJson item :: ofItems rest

def ofFields : List (String × Json) → List (Scalar × Tree)
  | [] => []
  | (name, value) :: rest => (.text name, ofJson value) :: ofFields rest

end

/-- What is inside a tree that contains itself; any other is as it is. -/
def bare : Tree → Tree
  | cyclic _ inside => inside
  | tree => tree

/-- The entries of a mapping; no other tree has any. -/
def entries (tree : Tree) : Entries :=
  match tree.bare with
  | mapping entries => entries
  | _ => []

/-- The tree under a name. -/
def field? (tree : Tree) (name : String) : Option Tree :=
  OrderedMap.get? tree.entries (.text name)

/-- The name of a tree's kind, as messages give it. -/
def kindName (tree : Tree) : String :=
  match tree.bare with
  | scalar value => value.kindName
  | list _ => "list"
  | mapping _ => "dict"
  | pair .. => "tuple"
  | set _ => "set"
  | cyclic .. => "dict"

/-- Whether a tree counts as present. -/
def isTruthy (tree : Tree) : Bool :=
  match tree.bare with
  | scalar value => value.isTruthy
  | list items => !items.isEmpty
  | mapping entries => !entries.isEmpty
  | set members => !members.isEmpty
  | _ => true

mutual

/-- What stands at a place after a tree has been laid over what stood there. -/
def laidOn (below : Option Tree) : Tree → Tree
  | mapping above =>
    match below.map bare with
    | some (mapping entries) => mapping (layEntries entries above)
    | _ => mapping above
  | cyclic shown inside =>
    match below.map bare, inside with
    | some (mapping _), mapping _ => laidOn below inside
    | _, _ => cyclic shown inside
  | tree => tree

/-- Lays the entries of one mapping over those of another: new keys go to the end. -/
def layEntries (below : Entries) : List (Scalar × Tree) → Entries
  | [] => below
  | (key, value) :: rest =>
    let spelled := key.spelledIn below
    layEntries (OrderedMap.insert below spelled (laidOn (OrderedMap.get? below spelled) value)) rest

end

/-- Lays one mapping over another, at every depth. -/
def overlay (base above : Entries) : Entries := layEntries base above

end Tree
end GraphCache
