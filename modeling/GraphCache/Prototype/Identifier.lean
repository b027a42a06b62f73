import GraphCache.OrderedMap

/-! The names under which an object or an argument list carries an identifier.
A custom name comes before the conventional ones; an empty name is none. -/
namespace GraphCache

/-- The conventional identifier names, in the order in which they are tried. -/
def conventionalNames : List String := ["id", "_id", "ID", "Id"]

/-- All identifier names in the order in which they are tried. -/
def identifierNames : Option String → List String
  | none => conventionalNames
  | some custom => if custom.isEmpty then conventionalNames else custom :: conventionalNames

/-- Whether one of the names is an identifier name. -/
def hasIdentifier (names : List String) (custom : Option String) : Bool :=
  (identifierNames custom).any names.contains

/-- The value under the first identifier name that is present. -/
def firstIdentifier? {α : Type} (entries : OrderedMap String α) (custom : Option String) :
    Option α :=
  (identifierNames custom).findSome? entries.get?

/-- An empty custom name counts as none. -/
def givenName? (name : Option String) : Option String := name.filter (!·.isEmpty)

end GraphCache
