import GraphCache.Settings.FilePath
import GraphCache.Settings.Tree

/-! The settings of a client: how it logs, how it caches and how it sends. -/
namespace GraphCache

inductive LogLevel where
  | debug
  | info
  | warning
  | error
  | critical
deriving DecidableEq, Repr

namespace LogLevel

def all : List LogLevel := [debug, info, warning, error, critical]

/-- The name of a level in an event. -/
def label : LogLevel → String
  | debug => "debug"
  | info => "info"
  | warning => "warning"
  | error => "error"
  | critical => "critical"

/-- The name of a level in settings. -/
def name : LogLevel → String
  | debug => "DEBUG"
  | info => "INFO"
  | warning => "WARNING"
  | error => "ERROR"
  | critical => "CRITICAL"

/-- Levels are ordered by severity. -/
def severity : LogLevel → Nat
  | debug => 10
  | info => 20
  | warning => 30
  | error => 40
  | critical => 50

/-- Whether an event of a level passes a threshold. -/
def reaches (level threshold : LogLevel) : Bool := decide (threshold.severity ≤ level.severity)

end LogLevel

inductive LogFormat where
  | json
  | console
deriving DecidableEq, Repr

/-- One output of the log. Without a level of its own it has that of the log. -/
structure LogOutput where
  format : LogFormat
  destination : String
  level : Option LogLevel
deriving DecidableEq, Repr

structure LogSettings where
  level : LogLevel
  outputs : List LogOutput
deriving DecidableEq, Repr

inductive StoreKind where
  | memory
  | sqlite
deriving DecidableEq, Repr

structure CacheSettings where
  lifetime : Int
  store : StoreKind
  path : Option String
  custom : Option String
deriving DecidableEq, Repr

structure TransportSettings where
  headers : OrderedMap String String
  timeout : Option Binary64
deriving DecidableEq, Repr

structure Settings where
  logging : LogSettings
  cache : CacheSettings
  transport : TransportSettings
deriving DecidableEq, Repr

def LogOutput.standard : LogOutput := ⟨.console, "stderr", none⟩

def LogSettings.standard : LogSettings := ⟨.info, [.standard]⟩

def CacheSettings.standard : CacheSettings := ⟨600, .memory, none, none⟩

def TransportSettings.standard : TransportSettings :=
  ⟨[("Content-Type", "application/json")], some (.ofInt 30)⟩

def Settings.standard : Settings := ⟨.standard, .standard, .standard⟩

/-! ## Names of choices -/

def LogLevel.choices : List (String × LogLevel) := LogLevel.all.map fun level => (level.name, level)

def LogFormat.choices : List (String × LogFormat) := [("json", .json), ("console", .console)]

def StoreKind.choices : List (String × StoreKind) := [("memory", .memory), ("sqlite", .sqlite)]

def LogFormat.name : LogFormat → String
  | json => "json"
  | console => "console"

def StoreKind.name : StoreKind → String
  | memory => "memory"
  | sqlite => "sqlite"

/-! ## Settings as trees -/

def optionalText (value : Option String) : Tree := (value.map Tree.text).getD .null

/-- A mapping from field names. -/
def Tree.ofEntries (entries : List (String × Tree)) : Tree :=
  .mapping (entries.map fun entry => (.text entry.1, entry.2))

def LogOutput.toTree (output : LogOutput) : Tree :=
  .ofEntries [("format", .text output.format.name), ("destination", .text output.destination),
    ("level", optionalText (output.level.map LogLevel.name))]

def LogSettings.toTree (settings : LogSettings) : Tree :=
  .ofEntries [("level", .text settings.level.name),
    ("outputs", .list (settings.outputs.map LogOutput.toTree))]

def CacheSettings.toTree (settings : CacheSettings) : Tree :=
  .ofEntries [("default_cache_time", .scalar (.int settings.lifetime)),
    ("cache_type", .text settings.store.name), ("cache_path", optionalText settings.path),
    ("user_defined_id", optionalText settings.custom)]

def TransportSettings.toTree (settings : TransportSettings) : Tree :=
  .ofEntries [
    ("headers", .ofEntries (settings.headers.map fun entry => (entry.1, Tree.text entry.2))),
    ("timeout_sec", (settings.timeout.map fun value => Tree.scalar (.float value)).getD .null)]

/-- The settings as a tree. Checking it gives the settings back. -/
def Settings.toTree (settings : Settings) : Tree :=
  .ofEntries [("logging", settings.logging.toTree), ("cache", settings.cache.toTree),
    ("transport", settings.transport.toTree)]

/-- The file of a store that outlives its client: the one that is set, or a standard
place below the root. There is none if a home cannot be found. -/
def CacheSettings.file (settings : CacheSettings) (homes : Homes) (standard : FilePath) :
    Option FilePath :=
  match settings.path.filter (!·.isEmpty) with
  | some path => (FilePath.ofText path).expandHome homes
  | none => some standard

end GraphCache
