import GraphCache.Json.Printer
import GraphCache.Settings.Basic

/-! Events of the log and the two forms in which outputs show them. While a call is
under way its events carry the call's identifier, so that they can be told apart
from those of other calls. -/
namespace GraphCache

structure LogEvent where
  name : String
  level : LogLevel
  fields : OrderedMap String Json
deriving DecidableEq, Repr

/-- An event as an output shows it, apart from its time: an object, or a line of
text. -/
inductive LogLine where
  | object (value : Json)
  | text (line : String)
deriving DecidableEq, Repr

namespace LogEvent

/-- The event as it comes from a named logger. A field of its own named "logger"
counts more. -/
def ofLogger (event : LogEvent) (logger : String) : LogEvent :=
  if logger.isEmpty then event
  else { event with fields := OrderedMap.overlay [("logger", .string logger)] event.fields }

/-- All fields of an event, with the identifier of the call if there is one. -/
def allFields (event : LogEvent) (call : Option String) : OrderedMap String Json :=
  let named := OrderedMap.overlay (event.fields.filter (·.1 != "timestamp"))
    [("event", .string event.name), ("level", .string event.level.label)]
  match call with
  | none => named
  | some identifier => OrderedMap.insert named "request_id" (.string identifier)

def toJson (event : LogEvent) (call : Option String) : Json := .object (event.allFields call)

/-- Whether a text must be quoted to be told apart from what surrounds it. -/
def needsQuotes (text : String) : Bool :=
  text.toList.any fun c =>
    c == ' ' || c == '\t' || c == '=' || c == '\r' || c == '\n' || c == '"' || c == '\''

/-- A value in a line: a text as it is where that is clear, else as inside a list. -/
def valueText : Json → String
  | .string text => if needsQuotes text then Text.quoted text else text
  | value => value.literal

/-- The fields that have a place of their own in a line, or none: those about an error
under way, of which there is never one. -/
def placedFields : List String :=
  ["level", "event", "logger", "logger_name", "stack", "exception", "exc_info"]

/-- Drops the spaces at the end of a line. -/
def trimEnd (line : String) : String :=
  String.ofList (line.toList.reverse.dropWhile (· == ' ')).reverse

/-- The line between the two texts that may follow a line. -/
def divider : String := String.ofList (List.replicate 79 '=')

/-- The texts about an error that follow a line on lines of their own. -/
def attachedText (fields : OrderedMap String Json) : String :=
  let text? (name : String) : Option String :=
    (OrderedMap.get? fields name).bind fun value => if value.isNull then none else some value.display
  let isFlagged := ((OrderedMap.get? fields "exc_info").map Json.isTruthy).getD false
  let error := text? "exception"
  let stack :=
    match text? "stack" with
    | none => ""
    | some text =>
      "\n" ++ text ++ if isFlagged || error.isSome then "\n\n" ++ divider ++ "\n" else ""
  stack ++ if isFlagged then "" else (error.map ("\n" ++ ·)).getD ""

/-- The event as a line: level, name and logger, then the other fields by name. -/
def toLine (event : LogEvent) (call : Option String) : String :=
  let fields := event.allFields call
  let bracketed (name : String) : List String :=
    (OrderedMap.get? fields name).toList.map fun value => "[" ++ value.display ++ "]"
  let others := (fields.filter fun entry => !placedFields.contains entry.1).mergeSort
    fun left right => decide (left.1 ≤ right.1)
  let parts := ["[" ++ event.level.label ++ "]", event.name] ++ bracketed "logger" ++
    bracketed "logger_name" ++ others.map fun entry => entry.1 ++ "=" ++ valueText entry.2
  trimEnd (" ".intercalate (parts.filter (!·.isEmpty))) ++ attachedText fields

/-- The event in the form of an output. -/
def shownAs (event : LogEvent) (call : Option String) : LogFormat → LogLine
  | .json => .object (event.toJson call)
  | .console => .text (event.toLine call)

end LogEvent
end GraphCache
