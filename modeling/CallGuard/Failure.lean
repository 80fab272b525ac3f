import CallGuard.Fault
import CallGuard.ErrorRecord

/-!
The ways in which an operation of the library can fail, each with what caused it, and the record
that each of the library's own failures shows.
-/

namespace CallGuard

/-- An argument that fails the type declared for it, as it is reported. -/
structure Violation where
  function : String
  label : String
  expected : String
  value : Value
  description : String
  deriving Inhabited

/-- What is wrong with the configuration or with an argument of an administrative operation. -/
inductive ConfigurationFault
  | badTag (written : String)
  | badPredicate (tag : String)
  | badReporter (received : String)
  | noPath
  | noHost
  | badHost (received : String)
  | unreadableFile (path : String) (cause : Cause)
  | badSettings (faults : List Fault)

/-- Why a module could not be loaded. -/
inductive LoadFault
  | notFound (path resolved : String)
  | notLoadable (file : String)
  | bodyFailed (file : String) (cause : Cause)
  | importFailed (path : String) (package : Value) (cause : Cause)

/-- A failure of an operation. -/
inductive Failure
  | invalidArgument (violation : Violation) (written : String)
  | duplicateParameter (parameter : String) (function : Option String)
  | noMember (symbol : String) (module : Value)
  | configuration (fault : ConfigurationFault)
  | load (fault : LoadFault)
  | invalid (faults : List Fault)
  | raised (e : Raised)
  deriving Inhabited

namespace ConfigurationFault

def message : ConfigurationFault → String
  | .badTag _ => "Validator type tag must be a non-empty string"
  | .badPredicate tag => "Validator for type " ++ tag ++ " must be callable"
  | .badReporter _ => "Error handler must be a function"
  | .noPath => "Filepath not defined"
  | .noHost => "Module not defined"
  | .badHost _ => "Module must be a module object, a module name, or a file path"
  | .unreadableFile _ cause => "Failed to load environment file: " ++ cause.text
  | .badSettings _ =>
    "Configuration validation failed. Check your PARAMOUNT_* environment variables."

def details : ConfigurationFault → List (String × Value)
  | .badTag written => [("tag", .text written)]
  | .badPredicate tag => [("tag", .text tag), ("error_code", .text notCallableCode)]
  | .badReporter received =>
    [("error_code", .text notCallableCode), ("received", .text received)]
  | .noPath => [("error_code", .text missingCode), ("argument", .text "path")]
  | .noHost => [("error_code", .text missingCode), ("argument", .text "host")]
  | .badHost received => [("received", .text received)]
  | .unreadableFile path cause => [("path", .text path), ("error", .text cause.text)]
  | .badSettings faults => [("validation_errors", .list (faults.map Fault.value))]

/-- The kind of the error that a configuration fault was raised from. -/
def cause? : ConfigurationFault → Option String
  | .unreadableFile _ cause => some cause.kind
  | .badSettings _ => some "ValidationError"
  | _ => none

end ConfigurationFault

namespace LoadFault

def message : LoadFault → String
  | .notFound path _ => "Cannot find module file " ++ path
  | .notLoadable file => "Cannot load module file " ++ file
  | .bodyFailed file cause => "Failed to load module " ++ file ++ ": " ++ cause.text
  | .importFailed path _ cause => "Cannot import module " ++ path ++ ": " ++ cause.text

def details : LoadFault → List (String × Value)
  | .notFound path resolved => [("path", .text path), ("resolved", .text resolved)]
  | .notLoadable file => [("path", .text file)]
  | .bodyFailed file cause => [("path", .text file), ("error", .text cause.text)]
  | .importFailed path package cause =>
    [("path", .text path), ("package", package), ("error", .text cause.text)]

def cause? : LoadFault → Option String
  | .bodyFailed _ cause => some cause.kind
  | .importFailed _ _ cause => some cause.kind
  | _ => none

end LoadFault

namespace Failure

variable [Platform]

/-- The record of a failure of the library's own; other errors have none. -/
def record? : Failure → Option ErrorRecord
  | .invalidArgument v written =>
    some (.make .argumentValidation
      (ErrorRecord.argumentMessage v.function v.label v.expected written)
      (ErrorRecord.detail [("function", .text v.function), ("parameter", .text v.label),
        ("expected_type", .text v.expected), ("value", .text written),
        ("description", .text v.description)]))
  | .duplicateParameter parameter function =>
    (ErrorRecord.duplicateParameter (.text parameter) (.ofText? function)).toOption
  | .noMember symbol module => (ErrorRecord.dispatch (.text symbol) module).toOption
  | .configuration fault =>
    some (.make .configuration fault.message (ErrorRecord.detail fault.details))
  | .load fault => some (.make .moduleLoad fault.message (ErrorRecord.detail fault.details))
  | .invalid _ | .raised _ => none

def cause? : Failure → Option String
  | .configuration fault => fault.cause?
  | .load fault => fault.cause?
  | _ => none

end Failure

end CallGuard
