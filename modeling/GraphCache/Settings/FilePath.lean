import GraphCache.OrderedMap

/-! Paths of files as they are shown: single slashes, no empty steps and none that
stay in place, and a tilde at the start replaced by a home directory. -/
namespace GraphCache

/-- A path with its root (one slash, two, or none) and its steps. -/
structure FilePath where
  root : String
  steps : List String
deriving DecidableEq, Repr

/-- The home directories of the user who runs the program, and of others by name. -/
structure Homes where
  own : String
  named : List (String × String)
deriving DecidableEq, Repr

/-- The home that a tilde with a name behind it stands for; the slashes at its end do not
count. -/
def Homes.find? (homes : Homes) (name : String) : Option String :=
  (if name.isEmpty then some homes.own else OrderedMap.get? homes.named name).map fun home =>
    let kept := String.ofList (home.toList.reverse.dropWhile (· == '/')).reverse
    if kept.isEmpty then "/" else kept

namespace FilePath

/-- The parts of a text between slashes. -/
def splitSlashes : List Char → List Char → List String
  | part, [] => [String.ofList part.reverse]
  | part, c :: rest =>
    if c = '/' then String.ofList part.reverse :: splitSlashes [] rest
    else splitSlashes (c :: part) rest

/-- Two slashes at the start are kept, any other number is one. -/
def rootOf : List Char → String
  | '/' :: '/' :: '/' :: _ => "/"
  | '/' :: '/' :: _ => "//"
  | '/' :: _ => "/"
  | _ => ""

def ofText (text : String) : FilePath where
  root := rootOf text.toList
  steps := (splitSlashes [] text.toList).filter fun step => !step.isEmpty && step != "."

def isAbsolute (path : FilePath) : Bool := !path.root.isEmpty

def toText (path : FilePath) : String :=
  if path.root.isEmpty && path.steps.isEmpty then "."
  else path.root ++ "/".intercalate path.steps

def append (path : FilePath) (steps : List String) : FilePath :=
  { path with steps := path.steps ++ steps }

/-- The name behind a tilde at the start of a path, empty for the user's own home. -/
def homeName? (path : FilePath) : Option String :=
  match path.root.isEmpty, path.steps.head?.map String.toList with
  | true, some ('~' :: name) => some (String.ofList name)
  | _, _ => none

/-- Replaces a tilde at the start by a home directory. Nobody has a home that begins with
another tilde. -/
def expandHome (homes : Homes) (path : FilePath) : Option FilePath :=
  match path.homeName? with
  | none => some path
  | some name =>
    match homes.find? name with
    | none => none
    | some home =>
      if home.toList.head? = some '~' then none
      else some ((ofText home).append path.steps.tail)

end FilePath
end GraphCache
