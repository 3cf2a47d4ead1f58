import RequestBinding.Json.ShapeValue
import RequestBinding.Settings.Filter

/-! What a log is to contain. -/

namespace RequestBinding

/-- How the events of a log are written: each as one object, or over several lines for people. -/
inductive LogFormat
  | json
  | pretty
deriving DecidableEq, Repr

namespace LogFormat

def name : LogFormat → String
  | json => "json"
  | pretty => "pretty"

def all : List LogFormat := [json, pretty]

def named : List (String × LogFormat) := all.map fun f => (f.name, f)

end LogFormat

/-- Settings of a log: whether there is one, the filter of its events, how they are written, and whether it shows
spans, places in the code, and the targets of events. -/
structure LogSettings where
  enabled : Bool
  level : String
  format : LogFormat
  spanEvents : Bool
  places : Bool
  targets : Bool
deriving DecidableEq, Repr

/-- Why a log cannot be started: its filter is none, or there is one already. -/
inductive LogFault
  | badFilter (filter : String)
  | started
deriving DecidableEq, Repr

namespace LogSettings

def standard : LogSettings := ⟨true, "info", .json, false, false, true⟩

def development : LogSettings := ⟨true, "debug", .pretty, true, true, true⟩

def production : LogSettings := standard

def document {σ : Type} : Json.Record σ LogSettings :=
  .mk "LogConfig" true
    (.withDefault "enabled" .bool standard.enabled
      (.withDefault "level" .string standard.level
        (.withDefault "format" (.choice LogFormat.named) standard.format
          (.withDefault "span_events" .bool standard.spanEvents
            (.withDefault "file_line_info" .bool standard.places
              (.withDefault "include_target" .bool standard.targets .nil))))))
    fun (enabled, level, format, spanEvents, places, targets, ()) =>
      ⟨enabled, level, format, spanEvents, places, targets⟩

def ofText (text : String) : Except String LogSettings := Json.Shape.readText (.record document) (Utf8.encode text)

def toJson (l : LogSettings) : Json :=
  .object [("enabled", .bool l.enabled), ("level", .string l.level), ("format", .string l.format.name),
    ("span_events", .bool l.spanEvents), ("file_line_info", .bool l.places), ("include_target", .bool l.targets)]

def filterFault? (l : LogSettings) : Option LogFault :=
  if LogFilter.isFilter l.level then none else some (.badFilter l.level)

/-- Why the log cannot be started, given whether there is one already. A log that is not enabled is not started. -/
def startFault? (l : LogSettings) (started : Bool) : Option LogFault :=
  if !l.enabled then none
  else l.filterFault?.or (if started then some .started else none)

end LogSettings

/-- What is wrong besides a filter. -/
def LogFault.message : LogFault → String
  | badFilter filter => "invalid log filter '" ++ filter ++ "'"
  | started => "a global default trace dispatcher has already been set"

end RequestBinding
