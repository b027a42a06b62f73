import GraphCache.Settings.Basic
import GraphCache.Settings.NumberText
import GraphCache.Text.Utf8

/-! Checking settings. Every field is checked on its own, and everything that is
wrong is reported in the order of the fields, with the path to the value. A field
that is missing has its standard value; a field that is not known is ignored. -/
namespace GraphCache

/-- What is wrong with a value. -/
inductive IssueKind where
  | notSection (title : String)
  | notMapping
  | notList
  | notText
  | notUtf8Text
  | notWhole
  | notWholeText
  | wholeTooLarge
  | fractional
  | notFinite
  | notReal
  | notRealText
  | notAmong (choices : List String)
  | rejected (reason : String)
  | unknown
  /-- A path begins with a home that cannot be found. Nothing is said beside it. -/
  | noHome
deriving DecidableEq, Repr

/-- One thing that is wrong: the path to the value, and the value itself. -/
structure Issue where
  path : List String
  kind : IssueKind
  input : Tree
deriving Repr

namespace IssueKind

/-- The short name of a kind. -/
def code : IssueKind → String
  | notSection _ => "model_type"
  | notMapping => "dict_type"
  | notList => "list_type"
  | notText => "string_type"
  | notUtf8Text => "string_unicode"
  | notWhole => "int_type"
  | notWholeText => "int_parsing"
  | wholeTooLarge => "int_parsing_size"
  | fractional => "int_from_float"
  | notFinite => "finite_number"
  | notReal => "float_type"
  | notRealText => "float_parsing"
  | notAmong _ => "literal_error"
  | rejected _ => "value_error"
  | unknown => "extra_forbidden"
  | noHome => "no_home"

/-- Choices in a sentence: the last one after an "or". -/
def listChoices : List String → String
  | [] => ""
  | [only] => "'" ++ only ++ "'"
  | [first, last] => "'" ++ first ++ "' or '" ++ last ++ "'"
  | first :: rest => "'" ++ first ++ "', " ++ listChoices rest

def message : IssueKind → String
  | notSection title => "Input should be a valid dictionary or instance of " ++ title
  | notMapping => "Input should be a valid dictionary"
  | notList => "Input should be a valid list"
  | notText => "Input should be a valid string"
  | notUtf8Text => "Input should be a valid string, unable to parse raw data as a unicode string"
  | notWhole => "Input should be a valid integer"
  | notWholeText => "Input should be a valid integer, unable to parse string as an integer"
  | wholeTooLarge => "Unable to parse input string as an integer, exceeded maximum size"
  | fractional => "Input should be a valid integer, got a number with a fractional part"
  | notFinite => "Input should be a finite number"
  | notReal => "Input should be a valid number"
  | notRealText => "Input should be a valid number, unable to parse string as a number"
  | notAmong choices => "Input should be " ++ listChoices choices
  | rejected reason => "Value error, " ++ reason
  | unknown => "Extra inputs are not permitted"
  | noHome => "Could not determine home directory."

end IssueKind

/-- A checked value, or everything that is wrong with it. -/
abbrev Checked (α : Type) := Except (List Issue) α

namespace Checked

/-- Combines two values that are checked on their own. -/
def both {α β γ : Type} (combine : α → β → γ) : Checked α → Checked β → Checked γ
  | .ok left, .ok right => .ok (combine left right)
  | .error issues, .ok _ => .error issues
  | .ok _, .error issues => .error issues
  | .error issues, .error more => .error (issues ++ more)

/-- Gives a value that is checked on its own to a function. -/
def apply {α β : Type} (function : Checked (α → β)) (value : Checked α) : Checked β :=
  both (fun function value => function value) function value

/-- Checks the elements of a list on their own. -/
def all {α β : Type} (check : α → Checked β) : List α → Checked (List β)
  | [] => .ok []
  | first :: rest => both (· :: ·) (check first) (all check rest)

def refuse {α : Type} (path : List String) (kind : IssueKind) (input : Tree) : Checked α :=
  .error [⟨path, kind, input⟩]

/-- Where a home cannot be found, nothing else is reported. -/
def settled {α : Type} (checked : Checked α) : Checked α :=
  checked.mapError fun issues => (issues.find? (·.kind = .noHome)).elim issues ([·])

end Checked

/-- A check of a value that stands at a path. -/
abbrev Check (α : Type) := List String → Tree → Checked α

namespace Check

open Checked

/-- The text that bytes write. -/
def textOfBytes? (bytes : List UInt8) : Option String :=
  (Text.Utf8.decode? bytes).map String.ofList

/-- A text, as such or as bytes. -/
def text : Check String
  | _, .scalar (.text value) => .ok value
  | path, .scalar (.bytes value) =>
    match textOfBytes? value with
    | some text => .ok text
    | none => refuse path .notUtf8Text (.scalar (.bytes value))
  | path, tree => refuse path .notText tree

/-- One of several names, in exactly their spelling. -/
def choice {α : Type} (choices : List (String × α)) : Check α := fun path tree =>
  let found :=
    match tree with
    | .scalar (.text name) => OrderedMap.get? choices name
    | _ => none
  match found with
  | some value => .ok value
  | none => refuse path (.notAmong (choices.map Prod.fst)) tree

/-- A whole number that a text writes. -/
def wholeText (path : List String) (tree : Tree) (text : Option String) : Checked Int :=
  match text.map NumberText.whole with
  | some (.value number) => .ok number
  | some .tooLong => refuse path .wholeTooLarge tree
  | _ => refuse path .notWholeText tree

/-- A whole number: as such, as a truth value, as a number without a fraction, or as
a text. -/
def whole : Check Int
  | _, .scalar (.int value) => .ok value
  | _, .scalar (.bool value) => .ok (if value then 1 else 0)
  | path, .scalar (.float value) =>
    match value with
    | .finite .. =>
      match value.toInt? with
      | none => refuse path .fractional (.scalar (.float value))
      | some whole =>
        if whole.natAbs < Nat.pow 2 63 then .ok whole
        else refuse path .wholeTooLarge (.scalar (.float value))
    | _ => refuse path .notFinite (.scalar (.float value))
  | path, .scalar (.text value) => wholeText path (.text value) value
  | path, .scalar (.bytes value) => wholeText path (.scalar (.bytes value)) (textOfBytes? value)
  | path, tree => refuse path .notWhole tree

/-- A number of double precision that a text writes. -/
def realText (path : List String) (tree : Tree) (text : Option String) : Checked Binary64 :=
  match text.bind NumberText.real? with
  | some number => .ok number
  | none => refuse path .notRealText tree

/-- A number of double precision. A whole number beyond all of them is none. -/
def real : Check Binary64
  | _, .scalar (.float value) => .ok value
  | path, .scalar (.int value) =>
    match Binary64.ofInt value with
    | .infinite _ => refuse path .notReal (.scalar (.int value))
    | number => .ok number
  | _, .scalar (.bool value) => .ok (.ofInt (if value then 1 else 0))
  | path, .scalar (.text value) => realText path (.text value) value
  | path, .scalar (.bytes value) => realText path (.scalar (.bytes value)) (textOfBytes? value)
  | path, tree => refuse path .notReal tree

/-- Nothing, or what another check accepts. -/
def optional {α : Type} (check : Check α) : Check (Option α)
  | _, .scalar .null => .ok none
  | path, tree => (check path tree).map some

/-- The items of a list, or the members of a set. -/
def items? (tree : Tree) : Option (List Tree) :=
  match tree.bare with
  | .list items => some items
  | .set members => some (members.map Tree.scalar)
  | _ => none

def list {α : Type} (check : Check α) : Check (List α) := fun path tree =>
  match items? tree with
  | some items => all (fun item => check (path ++ [toString item.2]) item.1) items.zipIdx
  | none => refuse path .notList tree

/-- A mapping of texts to texts. -/
def texts : Check (OrderedMap String String) := fun path tree =>
  match tree.bare with
  | .mapping entries =>
    (all (fun entry =>
      let here := path ++ [entry.1.step]
      both Prod.mk (text (here ++ ["[key]"]) (.scalar entry.1)) (text here entry.2)) entries).map
      OrderedMap.ofList
  | _ => refuse path .notMapping tree

/-- A section with a title, whose fields are checked one by one. -/
def fields {α : Type} (title : String) (check : List String → Tree → Checked α) : Check α :=
  fun path tree =>
    match tree.bare with
    | .mapping entries => check path (.mapping entries)
    | _ => refuse path (.notSection title) tree

/-- A field of a section. -/
def field {α : Type} (tree : Tree) (path : List String) (name : String) (standard : α)
    (check : Check α) : Checked α :=
  match tree.field? name with
  | none => .ok standard
  | some value => check (path ++ [name]) value

end Check

open Check Checked

/-- A lifetime is not negative. -/
def checkLifetime : Check Int := fun path tree => do
  let lifetime ← whole path tree
  if lifetime < 0 then
    refuse path (.rejected ("Cache time must be >= 0, got " ++ toString lifetime)) tree
  else return lifetime

/-- A destination is one of the standard streams or an absolute path. -/
def checkDestination (homes : Homes) : Check String := fun path tree => do
  let destination ← text path tree
  if destination = "stderr" ∨ destination = "stdout" then return destination
  match (FilePath.ofText destination).expandHome homes with
  | none => refuse path .noHome tree
  | some file =>
    if file.isAbsolute then return file.toText
    refuse path (.rejected ("File destination must be absolute path: " ++ destination)) tree

def LogOutput.check (homes : Homes) : Check LogOutput :=
  fields "LogOutputConfig" fun path tree =>
    let format := field tree path "format" LogOutput.standard.format (choice LogFormat.choices)
    let destination :=
      field tree path "destination" LogOutput.standard.destination (checkDestination homes)
    let level := field tree path "level" none (optional (choice LogLevel.choices))
    apply (both LogOutput.mk format destination) level

def LogSettings.check (homes : Homes) : Check LogSettings :=
  fields "LoggingConfig" fun path tree =>
    settled (both LogSettings.mk
      (field tree path "level" LogSettings.standard.level (choice LogLevel.choices))
      (field tree path "outputs" LogSettings.standard.outputs (list (LogOutput.check homes))))

def CacheSettings.check : Check CacheSettings :=
  fields "CacheConfig" fun path tree =>
    let standard := CacheSettings.standard
    let lifetime := field tree path "default_cache_time" standard.lifetime checkLifetime
    let store := field tree path "cache_type" standard.store (choice StoreKind.choices)
    let file := field tree path "cache_path" standard.path (optional text)
    let custom := field tree path "user_defined_id" standard.custom (optional text)
    apply (apply (both CacheSettings.mk lifetime store) file) custom

def TransportSettings.check : Check TransportSettings :=
  fields "TransportConfig" fun path tree =>
    let standard := TransportSettings.standard
    both TransportSettings.mk (field tree path "headers" standard.headers texts)
      (field tree path "timeout_sec" standard.timeout (optional real))

/-- Checks settings as a whole. A section that is not known is ignored. -/
def Settings.check (homes : Homes) : Tree → Checked Settings :=
  fields "QuellConfig" (fun path tree =>
    let standard := Settings.standard
    let logging := field tree path "logging" standard.logging (LogSettings.check homes)
    let cache := field tree path "cache" standard.cache CacheSettings.check
    let transport := field tree path "transport" standard.transport TransportSettings.check
    settled (apply (both Settings.mk logging cache) transport)) []

/-- The names of the sections. -/
def Settings.sectionNames : List String := ["logging", "cache", "transport"]

/-- Refuses sections that are not known. -/
def Settings.checkNames (sections : Entries) : Checked Unit :=
  let unknown := sections.filter fun entry =>
    !(Settings.sectionNames.map Scalar.text).contains entry.1
  match unknown.map fun entry => (⟨[entry.1.display], .unknown, entry.2⟩ : Issue) with
  | [] => .ok ()
  | issues => .error issues

/-- Checks settings that must not name any other section. -/
def Settings.checkStrictly (homes : Homes) (sections : Entries) : Checked Settings :=
  settled (both (fun settings _ => settings) (Settings.check homes (.mapping sections))
    (Settings.checkNames sections))

/-! ## Options of one call -/

/-- Where an option stands in the settings. -/
def optionTarget? (name : String) : Option (String × String) :=
  OrderedMap.get? [("__defaultCacheTime", ("cache", "default_cache_time")),
    ("__cacheType", ("cache", "cache_type")), ("__userDefinedID", ("cache", "user_defined_id")),
    ("headers", ("transport", "headers"))] name

/-- Sets one option in settings as a tree; an unknown one has no effect. -/
def applyOption (sections : Entries) (option : String × Tree) : Entries :=
  match optionTarget? option.1 with
  | none => sections
  | some (sectionName, name) =>
    let inner := ((OrderedMap.get? sections (.text sectionName)).map Tree.entries).getD []
    OrderedMap.insert sections (.text sectionName)
      (.mapping (OrderedMap.insert inner (.text name) option.2))

/-- The settings of one call. -/
def Settings.withOptions (settings : Settings) (homes : Homes) (options : List (String × Tree)) :
    Checked Settings :=
  if options.isEmpty then .ok settings
  else Settings.check homes (.mapping (options.foldl applyOption settings.toTree.entries))

end GraphCache
