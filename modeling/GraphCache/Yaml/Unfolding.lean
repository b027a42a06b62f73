import GraphCache.Yaml.Graph

/-! Values as trees. A collection that contains itself is no tree: it is unfolded a number
of times, and comes with the form in which it is shown. -/
namespace GraphCache
namespace Yaml

namespace Collection

/-- A collection as a tree of what its values become. -/
def toTree {m : Type → Type} [Monad m] (content : Value → m Tree) : Collection → m Tree
  | list items => return .list (← items.mapM content)
  | mapping entries => return .mapping (← entries.mapM fun entry => return (entry.1, ← content entry.2))
  | pair key value => return .pair (← content key) (← content value)
  | set members => return .set members

/-- The values in a collection. -/
def values : Collection → List Value
  | list items => items
  | mapping entries => entries.map Prod.snd
  | pair key value => [key, value]
  | set _ => []

/-- The collections in a collection. -/
def inner (collection : Collection) : List Nat :=
  collection.values.filterMap fun
    | .collection number => some number
    | .scalar _ => none

/-- What stands for a collection inside itself. -/
def dots : Collection → String
  | list _ => "[...]"
  | mapping _ => "\x7b...\x7d"
  | pair .. => "(...)"
  | set _ => "set(...)"

end Collection

/-- Trees of collections by number, as far as they are known. -/
abbrev Trees := Array (Option Tree)

def Trees.find? (trees : Trees) : Value → Option Tree
  | .scalar value => some (.scalar value)
  | .collection number => trees.getD number none

namespace Unfolding

variable (collections : Array Collection)

/-- A value as a tree that is cut off where a collection is met inside itself. -/
def cut : Nat → List Nat → Value → Tree
  | _, _, .scalar value => .scalar value
  | 0, _, .collection _ => .null
  | fuel + 1, outer, .collection number =>
    let collection := collections.getD number default
    if outer.contains number then .cyclic collection.dots .null
    else Id.run (collection.toTree fun value => pure (cut fuel (number :: outer) value))

/-- The form in which a collection is shown. -/
def shown (number : Nat) : String :=
  (cut collections (collections.size + 1) [] (.collection number)).literal

/-- Adds the trees of collections of which everything inside is known. Inner collections
mostly have greater numbers. -/
def grow (trees : Trees) : Trees :=
  (List.range collections.size).reverse.foldl (fun trees number =>
    if (trees.getD number none).isSome then trees
    else trees.setIfInBounds number ((collections.getD number default).toTree trees.find?)) trees

/-- Adds trees as long as there are more. -/
def growAll : Nat → Trees → Trees
  | 0, trees => trees
  | rounds + 1, trees =>
    let more := grow collections trees
    if more.all Option.isSome || more.countP Option.isSome = trees.countP Option.isSome then more
    else growAll rounds more

def complete (trees : Trees) : Trees := growAll collections (collections.size + 1) trees

/-- The collections that can be reached by one step or more. -/
def reached : Nat → List Nat → List Nat → List Nat
  | 0, _, seen => seen
  | rounds + 1, front, seen =>
    let next := front.flatMap fun number => (collections.getD number default).inner
    match (next.filter (!seen.contains ·)).eraseDups with
    | [] => seen
    | fresh => reached rounds fresh (seen ++ fresh)

/-- Whether a collection contains itself, at any depth. -/
def isCyclic (number : Nat) : Bool :=
  (reached collections (collections.size + 1) [number] []).contains number

/-- Trees of all collections, where those that contain themselves are unfolded to a
depth. -/
def unfold (known : Trees) (cyclic : List Nat) : (depth : Nat) → Trees
  | 0 => complete collections (cyclic.foldl (fun trees number =>
      trees.setIfInBounds number (some (.cyclic (shown collections number) .null))) known)
  | depth + 1 =>
    let inside := unfold known cyclic depth
    complete collections (cyclic.foldl (fun trees number =>
      let tree := (collections.getD number default).toTree inside.find?
      trees.setIfInBounds number (tree.map (Tree.cyclic (shown collections number)))) known)

/-- No check goes deeper than this into settings. -/
def greatestDepth : Nat := 8

end Unfolding

open Unfolding in
/-- A value as a tree. -/
def Value.toTree (value : Value) (collections : Array Collection) : Tree :=
  let known := complete collections (Array.replicate collections.size none)
  let rest := (List.range collections.size).filter fun number => (known.getD number none).isNone
  let trees :=
    match rest.filter (isCyclic collections) with
    | [] => known
    | cyclic => unfold collections known cyclic greatestDepth
  (trees.find? value).getD .null

end Yaml
end GraphCache
