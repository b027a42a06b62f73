import GraphCache.Journal.Event

/-! The journal of a program: its outputs with what their destinations have received,
and the identifier of the call under way. An event is shown by every output whose level
it reaches, if it reaches the level of its logger at all. Outputs may share a
destination, which then receives an event from each of them. -/
namespace GraphCache

/-- Libraries that log every step. Only their warnings are of interest, whatever the
level of the journal. -/
def quietLoggers : List String := ["httpx", "httpcore", "sqlalchemy"]

/-- Whether a logger is one of a library or stands below it. -/
def isBelow (logger library : String) : Bool :=
  logger == library || (library ++ ".").toList.isPrefixOf logger.toList

/-- The least level of a logger that belongs to another library. -/
def LogSettings.threshold (settings : LogSettings) (logger : String) : LogLevel :=
  if quietLoggers.any (isBelow logger) then .warning else settings.level

/-- The least level that an output shows. -/
def LogSettings.outputLevel (settings : LogSettings) (output : LogOutput) : LogLevel :=
  output.level.getD settings.level

/-- An output, and what its destination has received, in order. -/
structure LogRecord where
  output : LogOutput
  lines : List LogLine
deriving DecidableEq, Repr

structure Journal where
  settings : LogSettings
  records : List LogRecord
  call : Option String
deriving DecidableEq, Repr

namespace Journal

def start (settings : LogSettings) : Journal :=
  ⟨settings, settings.outputs.map fun output => ⟨output, []⟩, none⟩

/-- What a destination receives of an event: a line from each of its outputs that shows
the event. -/
def received (journal : Journal) (event : LogEvent) (destination : String) : List LogLine :=
  let outputs := journal.settings.outputs.filter fun output =>
    output.destination == destination && event.level.reaches (journal.settings.outputLevel output)
  outputs.map fun output => event.shownAs journal.call output.format

/-- Shows an event that has reached the level of its logger. -/
def pass (journal : Journal) (event : LogEvent) : Journal :=
  { journal with
    records := journal.records.map fun record =>
      { record with lines := record.lines ++ journal.received event record.output.destination } }

/-- Logs an event of the program's own. -/
def log (journal : Journal) (event : LogEvent) : Journal :=
  if event.level.reaches journal.settings.level then journal.pass event else journal

/-- Logs an event of another library. -/
def logForeign (journal : Journal) (logger : String) (event : LogEvent) : Journal :=
  if event.level.reaches (journal.settings.threshold logger) then journal.pass event else journal

/-- Begins a call under a given identifier, or under a fresh one. -/
def beginCall (journal : Journal) (given : Option String) (fresh : String) : Journal :=
  { journal with call := some ((given.filter (!·.isEmpty)).getD fresh) }

def endCall (journal : Journal) : Journal := { journal with call := none }

end Journal
end GraphCache
