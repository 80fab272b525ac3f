import CallGuard.Value.Key
import CallGuard.Value.Written

/-!
The structured form of the library's own errors: a kind, a message and details. The kinds form a
tree, and every record's details hold an error code, that of its kind unless another one is given.
-/

namespace CallGuard

/-- The kinds of errors. -/
inductive ErrorKind
  | general
  | configuration
  | construction
  | duplicateParameter
  | argumentValidation
  | dispatch
  | moduleLoad
  deriving DecidableEq, Repr, Inhabited

namespace ErrorKind

def name : ErrorKind → String
  | .general => "ParamountError"
  | .configuration => "ConfigurationError"
  | .construction => "ConstructionError"
  | .duplicateParameter => "DuplicateParameterError"
  | .argumentValidation => "ArgumentValidationError"
  | .dispatch => "DispatchError"
  | .moduleLoad => "ModuleLoadError"

def code : ErrorKind → String
  | .general => "INVALID_CONFIGURATION"
  | .configuration => "INVALID_CONFIGURATION"
  | .construction => "DUPLICATE_PARAMETER"
  | .duplicateParameter => "DUPLICATE_PARAMETER"
  | .argumentValidation => "INVALID_ARGUMENT_TYPE"
  | .dispatch => "DISPATCH_FAILED"
  | .moduleLoad => "MODULE_LOAD_FAILED"

def all : List ErrorKind :=
  [.general, .configuration, .construction, .duplicateParameter, .argumentValidation, .dispatch,
    .moduleLoad]

def lineage : ErrorKind → List ErrorKind
  | .general => [.general]
  | .duplicateParameter => [.duplicateParameter, .construction, .general]
  | kind => [kind, .general]

end ErrorKind

/-- The code of an error about something that had to be callable. -/
def notCallableCode : String := "NOT_CALLABLE"

def missingCode : String := "MISSING_CONFIGURATION"

/-- An error: its message is mostly a text, and its details are mostly a mapping. -/
structure ErrorRecord where
  kind : ErrorKind
  message : Value
  details : Value
  deriving Inhabited

namespace ErrorRecord

def codeKey : String := "error_code"

def withCode (kind : ErrorKind) (details : List (Value × Value)) : List (Value × Value) :=
  if (Value.entryAt? details codeKey).isSome then details
  else details ++ [(.text codeKey, .text kind.code)]

/-- An error of a kind, with the code of the kind unless the details hold one. -/
def make (kind : ErrorKind) (message : String) (details : List (Value × Value)) : ErrorRecord :=
  ⟨kind, .text message, .mapping (withCode kind details)⟩

def detail (pairs : List (String × Value)) : List (Value × Value) :=
  pairs.map fun pair => (.text pair.1, pair.2)

variable [Platform]

/-- Two declarations of a parameter; the function is left out of the message when it has no name. -/
def duplicateParameter (parameter function : Value) : Except Raised ErrorRecord := do
  let shown ← parameter.plain
  let place ← if function.truthy then (" in function " ++ ·) <$> function.plain else .ok ""
  .ok (make .duplicateParameter ("Duplicate parameter definition for " ++ shown ++ place)
    (detail [("parameter", parameter), ("function", function)]))

def argumentMessage (function parameter expected written : String) : String :=
  "function " ++ function ++ " - invalid argument type for " ++ parameter ++ ", expected " ++
    expected ++ " got " ++ written

def argumentValidation (function parameter expected value description : Value) :
    Except Raised ErrorRecord := do
  let f ← function.plain
  let p ← parameter.plain
  let t ← expected.plain
  let v ← value.written
  .ok (make .argumentValidation (argumentMessage f p t v)
    (detail [("function", function), ("parameter", parameter), ("expected_type", expected),
      ("value", .text v), ("description", description)]))

/-- A call of something that is absent or not callable. -/
def dispatch (symbol module : Value) : Except Raised ErrorRecord := do
  let s ← symbol.plain
  let place ← if module.truthy then (" in module " ++ ·) <$> module.plain else .ok ""
  .ok (make .dispatch ("Method " ++ s ++ " not defined or not a function" ++ place)
    (detail [("symbol", symbol), ("module", module)]))

/-- The record as a mapping, for structured logs. -/
def toValue (e : ErrorRecord) : Value :=
  .mapping [
    (.text "error", .text e.kind.name),
    (.text "message", e.message),
    (.text "details", e.details)]

def text (e : ErrorRecord) : Except Raised String :=
  e.message.plain

end ErrorRecord

end CallGuard
