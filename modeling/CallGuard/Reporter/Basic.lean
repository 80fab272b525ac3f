import CallGuard.Callable.Looks
import CallGuard.Failure
import CallGuard.Table
import CallGuard.Value.Written

/-!
Reporters: what a violation is handed to. A reporter raises, logs, or is called with the violation.
-/

namespace CallGuard

/-- What receives violations: one of the library's own reporters, or something that is called. -/
inductive Reporter
  | raising
  | logging
  | custom (v : Value)
  deriving Inhabited

namespace Violation

/-- The message about a violation with the written form of its value. -/
def message (violation : Violation) (written : String) : String :=
  ErrorRecord.argumentMessage violation.function violation.label violation.expected written

def extra (violation : Violation) (written : String) : Table Value :=
  [("wrapped_function", .text violation.function), ("parameter", .text violation.label),
    ("expected_type", .text violation.expected), ("value", .text written),
    ("description", .text violation.description)]

/-- The arguments that a reporter is called with when there is no description. -/
def briefArguments (violation : Violation) : List Value :=
  [.text violation.function, .text violation.label, .text violation.expected, violation.value]

def arguments (violation : Violation) : List Value :=
  violation.briefArguments ++ [.text violation.description]

end Violation

namespace Reporter

variable [Platform]

def isCallable : Reporter → Bool
  | .custom v => v.isCallable
  | _ => true

/-- The name of a reporter: one without a name is shown in its written form, if it has one. -/
def name : Reporter → Except Raised Value
  | .raising => .ok (.text "raise_error_reporter")
  | .logging => .ok (.text "log_error_reporter")
  | .custom v => do
    let written ← v.written
    match ← v.optionalAttribute Callable.ownName with
    | some name => .ok name
    | none => .ok (.text written)

def receivedType : Reporter → String
  | .custom v => v.typeName
  | _ => "function"

end Reporter

end CallGuard
