import CallGuard.Config.Loading
import CallGuard.Session.Calls

/-!
Reporting violations in a session. Raising and logging show the written form of the value, so they
fail with the error of writing it if it has none. The session keeps one reporter: the last one set,
or else the one that the settings choose when it is first asked for. Once chosen it stays, however
the settings change; a failure leaves it as it was.
-/

namespace CallGuard.Reporter

variable [Platform]

def warningSite : Log.Site := ⟨"reporting", "reporting", "log_error_reporter"⟩

/-- Hands a violation to a reporter, in the form of arguments if it is called with it. -/
def reportAs (reporter : Reporter) (violation : Violation) (arguments : List Value) : Run Value :=
  match reporter with
  | .raising => do
    let written ← Run.ofExcept violation.value.written
    throw (.invalidArgument violation written)
  | .logging => do
    let written ← Run.ofExcept violation.value.written
    Run.log warningSite warningSeverity (violation.message written) (violation.extra written)
    pure .null
  | .custom v => v.call ⟨arguments, []⟩

def report (reporter : Reporter) (violation : Violation) : Run Value :=
  reporter.reportAs violation violation.arguments

def choiceSite : Log.Site := ⟨"reporting", "reporting", "_reporter_from_config"⟩

def replacementSite : Log.Site := ⟨"reporting", "reporting", "set_error_reporter"⟩

def ofMode : Config.ReporterMode → Reporter
  | .raise => .raising
  | .log => .logging

def chosen : Run Reporter := do
  let settings ← Config.current
  Run.log choiceSite debugSeverity
    ("Initializing error reporter from configuration: " ++ settings.reporter.name) []
  pure (ofMode settings.reporter)

def current : Run Reporter := do
  let session ← get
  match session.reporter with
  | some reporter => pure reporter
  | none =>
    let reporter ← chosen
    modify fun session => { session with reporter := some reporter }
    pure reporter

/-- Sets the reporter of the session, if it can be called. -/
def replace (reporter : Reporter) : Run Unit := do
  if reporter.isCallable then
    modify fun session => { session with reporter := some reporter }
    let name ← Run.ofExcept reporter.name
    Run.log replacementSite debugSeverity "Error reporter replaced" [("reporter", name)]
  else throw (.configuration (.badReporter reporter.receivedType))

def reset : Run Unit :=
  modify fun session => { session with reporter := none }

end CallGuard.Reporter
