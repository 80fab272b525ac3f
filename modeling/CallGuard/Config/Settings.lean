import CallGuard.Fault
import CallGuard.Text.Letters
import CallGuard.Text.Trim

/-!
The settings of the library and how they are read from named variables: texts are trimmed and
compared without regard to case, a flag is on for a few words and off for everything else.
-/

namespace CallGuard.Config

/-- The surroundings that the library runs in. -/
inductive Stage
  | development
  | staging
  | production
  | test
  deriving DecidableEq, Repr, Inhabited

/-- The least severe level that is logged. -/
inductive LogLevel
  | debug
  | info
  | warning
  | error
  | critical
  deriving DecidableEq, Repr, Inhabited

/-- What is done first with a violation. -/
inductive ReporterMode
  | raise
  | log
  deriving DecidableEq, Repr, Inhabited

def Stage.name : Stage → String
  | .development => "development"
  | .staging => "staging"
  | .production => "production"
  | .test => "test"

def Stage.all : List Stage := [.development, .staging, .production, .test]

def LogLevel.name : LogLevel → String
  | .debug => "DEBUG"
  | .info => "INFO"
  | .warning => "WARNING"
  | .error => "ERROR"
  | .critical => "CRITICAL"

def LogLevel.all : List LogLevel := [.debug, .info, .warning, .error, .critical]

def ReporterMode.name : ReporterMode → String
  | .raise => "raise"
  | .log => "log"

def ReporterMode.all : List ReporterMode := [.raise, .log]

/-- The settings of the library. -/
structure Settings where
  stage : Stage := .development
  level : LogLevel := .info
  jsonLogs : Bool := false
  enabled : Bool := true
  reporter : ReporterMode := .raise
  deriving DecidableEq, Repr, Inhabited

def choose {α : Type} (field : String) (all : List α) (name : α → String) (text : String) :
    Except (List Fault) α :=
  match all.find? fun choice => name choice = text with
  | some choice => .ok choice
  | none => .error [.at (.notChoice (all.map name)) field]

def faultsOf {α : Type} : Except (List Fault) α → List Fault
  | .ok _ => []
  | .error faults => faults

/-- A text without blanks at its ends, in small letters. -/
def trimmedSmall (text : String) : String :=
  String.ofList (Text.smalls (Text.trim text.toList))

/-- A text without blanks at its ends, in capital letters. -/
def trimmedCapital (text : String) : String :=
  String.ofList (Text.capitals (Text.trim text.toList))

def flagWords : List String := ["1", "true", "yes", "on"]

/-- Reads a flag; no text is wrong. -/
def readFlag (text : String) : Bool :=
  flagWords.contains (trimmedSmall text)

/-- Reads the settings from named variables; all faults are found together. -/
def Settings.read (look : String → Option String) : Except (List Fault) Settings :=
  let stage := choose "environment" Stage.all Stage.name
    (trimmedSmall ((look "PARAMOUNT_ENVIRONMENT").getD "development"))
  let level := choose "log_level" LogLevel.all LogLevel.name
    (trimmedCapital ((look "PARAMOUNT_LOG_LEVEL").getD "INFO"))
  let reporter := choose "reporter" ReporterMode.all ReporterMode.name
    (trimmedSmall ((look "PARAMOUNT_REPORTER").getD "raise"))
  match stage, level, reporter with
  | .ok stage, .ok level, .ok reporter =>
    .ok
      { stage, level, reporter
        jsonLogs := readFlag ((look "PARAMOUNT_JSON_LOGS").getD "false")
        enabled := readFlag ((look "PARAMOUNT_ENABLED").getD "true") }
  | stage, level, reporter => .error (faultsOf stage ++ faultsOf level ++ faultsOf reporter)

end CallGuard.Config
