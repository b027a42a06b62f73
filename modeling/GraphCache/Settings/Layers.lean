import GraphCache.Failure
import GraphCache.Json.Reader
import GraphCache.Settings.Validation
import GraphCache.Text.Lowercase
import GraphCache.Yaml.Reader

/-! Settings from several sources, laid over one another: the file of the user below,
then the file of the project, then variables, then what the caller names. The result
is checked as one. -/
namespace GraphCache

/-- What a program that uses the cache is called. Its settings stand in a folder of
that name with a leading point, and its variables begin with that name. -/
structure Application where
  name : String

namespace Application

def folder (application : Application) : String := "." ++ application.name

/-- The beginning of a section's variables. Variables are compared in lower case. -/
def variablesOf (application : Application) (sectionName : String) : String :=
  Text.lowercase application.name ++ "__" ++ sectionName

end Application

/-! ## Variables -/

/-- The parts of a text between pairs of underscores. -/
def splitPairs : List Char → List Char → List String
  | part, [] => [String.ofList part.reverse]
  | part, '_' :: '_' :: rest => String.ofList part.reverse :: splitPairs [] rest
  | part, c :: rest => splitPairs (c :: part) rest

/-- The fields whose variables are written as JSON. -/
def jsonFields : List (String × String) := [("logging", "outputs"), ("transport", "headers")]

/-- A variable's text as a tree, if it is JSON. -/
def treeOfText? (text : String) : Option Tree :=
  match Json.read text with
  | .ok value => some (.ofJson value)
  | .error _ => none

/-- Sets a value at a path. What stands on the way and is no mapping stays. -/
def setVariable (entries : Entries) : (path : List String) → (value : Tree) → Entries
  | [], _ => entries
  | [name], value => OrderedMap.insert entries (.text name) value
  | name :: rest, value =>
    match OrderedMap.get? entries (.text name) with
    | none => OrderedMap.insert entries (.text name) (.mapping (setVariable [] rest value))
    | some (.mapping inner) =>
      OrderedMap.insert entries (.text name) (.mapping (setVariable inner rest value))
    | some _ => entries

/-- The names of the fields of each section. -/
def sectionFields (sectionName : String) : List String :=
  if sectionName = "logging" then ["level", "outputs"]
  else if sectionName = "cache" then
    ["default_cache_time", "cache_type", "cache_path", "user_defined_id"]
  else ["headers", "timeout_sec"]

/-- The fields that the variables below a section set. -/
def variableFields (sectionName start : String) (environment : OrderedMap String String) :
    Option Entries :=
  environment.foldlM (fun entries entry =>
    let name := entry.1.toList
    if start.toList.isPrefixOf name then
      let path := splitPairs [] (name.drop start.length)
      let isJson := match path with
        | [field] => jsonFields.contains (sectionName, field) && !entry.2.isEmpty
        | _ => false
      if isJson then (treeOfText? entry.2).map (setVariable entries path)
      else some (setVariable entries path (.text entry.2))
    else some entries) []

/-- Gives known fields their own spelling. -/
def respell (sectionName : String) (entries : Entries) : Entries :=
  OrderedMap.ofList (entries.map fun entry =>
    let known := (sectionFields sectionName).find? fun field =>
      .text field = Scalar.text (Text.lowercase entry.1.display)
    (((known.map Scalar.text).getD entry.1), entry.2))

/-- What the variables say about a section: nothing, its value as a whole, or some of
its fields. A value that is no JSON is a fault. -/
def variableSection (application : Application) (environment : OrderedMap String String)
    (sectionName : String) : Except String (Option Tree) :=
  let start := application.variablesOf sectionName
  let whole :=
    match OrderedMap.get? environment start with
    | none => some none
    | some text => (treeOfText? text).map some
  match whole, variableFields sectionName (start ++ "__") environment with
  | none, _ => .error sectionName
  | some (some (.mapping entries)), some fields =>
    .ok (some (.mapping (respell sectionName (Tree.overlay entries fields))))
  | some (some (.mapping _)), none => .error sectionName
  | some (some (.scalar .null)), _ => .ok none
  | some (some tree), _ => .ok (some tree)
  | some none, none => .error sectionName
  | some none, some fields =>
    .ok (if fields.isEmpty then none else some (.mapping (respell sectionName fields)))

/-- The settings that variables make, or the section whose value is no JSON. -/
def variableSettings (application : Application) (environment : List (String × String)) :
    Except String Entries := do
  let lowered := OrderedMap.ofList (environment.map fun entry => (Text.lowercase entry.1, entry.2))
  let sections ← Settings.sectionNames.mapM fun sectionName => do
    return (← variableSection application lowered sectionName).map fun tree =>
      (Scalar.text sectionName, tree)
  return sections.filterMap id

/-! ## Layers -/

/-- Where settings come from. Files are given with their paths, and may be missing. -/
structure SettingsSources where
  projectPath : String
  project : Option String
  userPath : String
  user : Option String
  environment : List (String × String)
  keywords : Entries

/-- Why layers cannot be laid over one another. Only mappings can, and the first fault
tells what a layer lacks that is none. -/
inductive LayerFault where
  | lacks (kind operation : String)
  /-- A list has no place for a key. -/
  | noPlace (kind : String)
  /-- A set has no values that could be written. -/
  | noWriting
  /-- A set has no values that could be read. -/
  | noReading
  /-- A section must have a name. -/
  | nameless
deriving DecidableEq, Repr

def LayerFault.message : LayerFault → String
  | lacks kind operation => "'" ++ kind ++ "' object has no attribute '" ++ operation ++ "'"
  | noPlace kind => "list indices must be integers or slices, not " ++ kind
  | noWriting => "'set' object does not support item assignment"
  | noReading => "'set' object is not subscriptable"
  | nameless => "keywords must be strings"

/-- Why no settings could be made. -/
inductive SettingsError where
  | failure (cause : Failure)
  | unreadableVariable (sectionName : String)
  /-- A text in a file is not the value that it is said to be. -/
  | value (fault : Yaml.ValueFault)
  | layers (fault : LayerFault)
  /-- A path begins with a home that cannot be found. -/
  | noHome

/-- What a file says. An empty file and a missing one say nothing, like a mapping without
entries. -/
def readSettings (path : String) : Option String → Except SettingsError Tree
  | none => .ok (.mapping [])
  | some text =>
    match Yaml.read text with
    | .ok tree => .ok (if tree.isTruthy then tree else .mapping [])
    | .error (.value fault) => .error (.value fault)
    | .error fault => .error (.failure (.unreadableConfig path fault.message))

/-- Lays entries over a tree. Other trees than mappings only take none. -/
def layOver (below : Tree) (above : Entries) : Except LayerFault Tree :=
  match below.bare, above with
  | .mapping entries, _ => .ok (.mapping (Tree.overlay entries above))
  | .list _, [] | .set _, [] => .ok below
  | .list _, entry :: _ => .error (.noPlace entry.1.kindName)
  | .set members, entry :: _ =>
    .error (if (members.map Scalar.key).contains entry.1.key then .noReading else .noWriting)
  | _, _ => .error (.lacks below.kindName "copy")

/-- The entries of a mapping, which no other tree has. -/
def entriesOf (tree : Tree) : Except LayerFault Entries :=
  match tree.bare with
  | .mapping entries => .ok entries
  | _ => .error (.lacks tree.kindName "items")

/-- Lays the file of a project over that of a user. -/
def layFiles (user project : Tree) : Except LayerFault Tree := do
  if !user.isTruthy then return project
  let _ ← layOver user []
  layOver user (← entriesOf project)

/-- Lays variables and keywords over what the files say, and gives the sections. -/
def laySections (files : Tree) (given : Entries) : Except LayerFault Entries := do
  let sections ← entriesOf (← layOver files given)
  if sections.all fun entry => entry.1 matches .text _ then return sections
  throw .nameless

/-- The first thing that is wrong. -/
def firstIssue : List Issue → SettingsError
  | [] => .failure (.invalidConfig "" "" "")
  | issue :: _ =>
    if issue.kind = .noHome then .noHome
    else .failure
      (.invalidConfig (".".intercalate issue.path) issue.input.display issue.kind.message)

/-- The settings of all sources. -/
def SettingsSources.load (sources : SettingsSources) (application : Application) (homes : Homes) :
    Except SettingsError Settings := do
  let project ← readSettings sources.projectPath sources.project
  let user ← readSettings sources.userPath sources.user
  let files ← (layFiles user project).mapError .layers
  let environment ←
    (variableSettings application sources.environment).mapError SettingsError.unreadableVariable
  let given := Tree.overlay environment sources.keywords
  let sections ← (laySections files given).mapError .layers
  (Settings.checkStrictly homes sections).mapError firstIssue

/-- The file of a store: the one that is set, or a standard one below the root. -/
def Settings.storeFile (settings : Settings) (application : Application) (homes : Homes)
    (root : String) : Except SettingsError FilePath :=
  match settings.cache.file homes ((FilePath.ofText root).append [application.folder, "cache.db"]) with
  | some file => .ok file
  | none => .error .noHome

end GraphCache
