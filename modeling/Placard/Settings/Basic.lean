import Placard.File.Path

/-!
# Settings

The settings of an application that renders cards: its name, how it logs, and defaults for
rendering.
-/

namespace Placard

/-- Where an application runs. -/
inductive Environment where
  | development
  | testing
  | production
deriving DecidableEq

namespace Environment

/-- The name of an environment. -/
def name : Environment → String
  | development => "development"
  | testing => "testing"
  | production => "production"

/-- All environments. -/
def all : List Environment :=
  [development, testing, production]

end Environment

/-- From which importance on events are logged. -/
inductive LogLevel where
  | debug
  | info
  | warning
  | error
  | critical
deriving DecidableEq

namespace LogLevel

/-- The name of a level. -/
def name : LogLevel → String
  | debug => "DEBUG"
  | info => "INFO"
  | warning => "WARNING"
  | error => "ERROR"
  | critical => "CRITICAL"

/-- All levels. -/
def all : List LogLevel :=
  [debug, info, warning, error, critical]

end LogLevel

/-- The settings of an application. -/
structure Settings where
  appName : String := "Card Render"
  appVersion : String := "1.0.0"
  environment : Environment := .development
  debug : Bool := false
  logLevel : LogLevel := .info
  /-- the file with the configuration of the host -/
  hostConfigPath : Option File.Path := none
  /-- whether cards have actions, if that is not left to the host -/
  supportsInteractivity : Option Bool := none
  markdownExtensions : List String := ["sane_lists"]
  /-- the title of pages that are given none -/
  pageTitle : String := "Adaptive Card"

namespace Settings

/-- The level that is in force: debugging logs everything. -/
def effectiveLogLevel (s : Settings) : LogLevel :=
  if s.debug then .debug else s.logLevel

end Settings

end Placard
