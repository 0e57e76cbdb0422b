import Placard.Data.Value
import Placard.Settings.Basic

/-!
# How events are logged

Events pass through a chain of processors, the last of which writes them: for a reader at a console,
or, where the application is in production, as JSON with its name and version.
-/

namespace Placard.Settings

open Placard.Data

/-- A step that events pass through. -/
inductive Processor where
  | filterByLevel
  | addLoggerName
  | addLogLevel
  | positionalArguments
  | stackInfo
  | exceptionInfo
  | unicodeDecoder
  | addApp
  | timeStamp
  | json
  | console
deriving DecidableEq

/-- The name of a step. -/
def Processor.name : Processor → String
  | .filterByLevel => "filter_by_level"
  | .addLoggerName => "add_logger_name"
  | .addLogLevel => "add_log_level"
  | .positionalArguments => "PositionalArgumentsFormatter"
  | .stackInfo => "StackInfoRenderer"
  | .exceptionInfo => "ExceptionRenderer"
  | .unicodeDecoder => "UnicodeDecoder"
  | .addApp => "add_app_context"
  | .timeStamp => "TimeStamper"
  | .json => "JSONRenderer"
  | .console => "ConsoleRenderer"

/-- The chain of an application. -/
def processors (s : Settings) : List Processor :=
  [.filterByLevel, .addLoggerName, .addLogLevel, .positionalArguments, .stackInfo, .exceptionInfo,
    .unicodeDecoder] ++
    (if s.environment = .production then [.addApp, .timeStamp, .json] else [.console])

/-- An event with the name and the version of the application, unless it has its own. -/
def stamped (s : Settings) (event : List (Value × Value)) : List (Value × Value) :=
  let withDefault (name value : String) (event : List (Value × Value)) :=
    if (Value.find? name event).isSome then event
    else event ++ [(.text name, .text value)]
  withDefault "version" s.appVersion (withDefault "app" s.appName event)

/-- A logger at a level, which writes to the console. -/
def loggerData (level : String) : Value :=
  .ofMembers [("level", .text level), ("handlers", .list [.text "console"]),
    ("propagate", .bool false)]

/-- The loggers that say too much. -/
def quietLoggers : List String :=
  ["MARKDOWN", "bs4"]

/-- The configuration of the loggers as data. -/
def loggingData (s : Settings) : Value :=
  let level := s.effectiveLogLevel.name
  let formatter := if s.environment = .production then "json" else "console"
  .ofMembers [("version", .int 1), ("disable_existing_loggers", .bool false),
    ("formatters", .ofMembers [
      ("console", .ofMembers [
        ("format", .text "%(asctime)s [%(levelname)s] %(name)s: %(message)s"),
        ("datefmt", .text "%Y-%m-%d %H:%M:%S")]),
      ("json", .ofMembers [
        ("()", .text "pythonjsonlogger.jsonlogger.JsonFormatter"),
        ("format", .text "%(asctime)s %(name)s %(levelname)s %(message)s")])]),
    ("handlers", .ofMembers [
      ("console", .ofMembers [("class", .text "logging.StreamHandler"), ("level", .text level),
        ("formatter", .text formatter)])]),
    ("loggers", .ofMembers
      (("", loggerData level) :: quietLoggers.map fun name => (name, loggerData "WARNING")))]

end Placard.Settings
