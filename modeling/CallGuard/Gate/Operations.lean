import CallGuard.Gate.Basic
import CallGuard.Registry.Operations
import CallGuard.Reporter.Operations
import CallGuard.Value.Path

/-!
Building gates from the lines of a function's documentation, and passing calls through them. A gate
without a registry or reporter of its own takes those of the session at the moment of each check.
-/

namespace CallGuard

/-- Where what a line does not hold is logged. -/
def Omission.site : Omission → Log.Site
  | .orphan .. => ⟨"tree", "tree", "coalesce_params"⟩
  | _ => ⟨"declarations", "declarations", "parse_declaration"⟩

def Omission.message : Omission → String
  | .noHeading _ => "Dropping unparseable declaration"
  | .emptySegment _ => "Dropping declaration with empty segment"
  | .orphan name path =>
    "Dropping property " ++ name ++ "." ++ path ++ " declared before its parameter"

/-- The extra fields of the message about a line that was left out. -/
def Omission.extra (function : Option String) : Omission → Table Value
  | .noHeading line | .emptySegment line => [("declaration", .text line)]
  | .orphan name _ => [("wrapped_function", .ofText? function), ("parameter", .text name)]

variable [Platform]

def Omission.log (function : Option String) (omission : Omission) : Run Unit :=
  Run.log omission.site debugSeverity omission.message (omission.extra function)

/-- Logs what was left out, in order. -/
def Omission.logAll (function : Option String) : List Omission → Run Unit
  | [] => pure ()
  | omission :: rest => do
    omission.log function
    logAll function rest

/-- The declaration in a value, if it holds one; a text that does not is logged. -/
def Declaration.readLogged (line : Value) : Run (Option Declaration) := do
  match Entry.ofValue line with
  | .declaration d => pure (some d)
  | .noHeading text =>
    Omission.log none (.noHeading text)
    pure none
  | .emptySegment text =>
    Omission.log none (.emptySegment text)
    pure none
  | .nothing => pure none

/-- The outline of entries in order; what is left out is logged. -/
def Outline.build (function : Option String) (entries : List Entry) : Run Outline := do
  let (omitted, outcome) := Outline.collect function [] entries
  Omission.logAll function omitted
  match outcome with
  | .ok outline => pure outline
  | .error failure => throw failure

namespace Gate

def buildSite : Log.Site := ⟨"gate", "gate", "build_gate"⟩

def checkSite : Log.Site := ⟨"gate", "gate", "_report"⟩

def build (function : String) (lines : List Value) (registry : Option RegistryId)
    (reporter : Option Reporter) : Run Gate := do
  let outline ← Outline.build (some function) (lines.map Entry.ofValue)
  let gate : Gate := { function, outline, registry, reporter }
  Run.log buildSite debugSeverity
    ("Built validation gate for " ++ function ++ " with " ++ toString outline.length ++
      " parameter(s)")
    [("wrapped_function", .text function),
      ("parameters", .list (gate.parameterNames.map Value.text))]
  pure gate

def violation (gate : Gate) (label expected : String) (v : Value) (description : String) :
    Violation :=
  { function := gate.function, label, expected, value := v, description }

def reporterInForce (gate : Gate) : Run Reporter :=
  match gate.reporter with
  | some reporter => pure reporter
  | none => Reporter.current

def report (gate : Gate) (label expected : String) (v : Value) (description : String) :
    Run Unit := do
  Run.log checkSite debugSeverity
    ("Argument check failed for " ++ label ++ " in " ++ gate.function)
    [("wrapped_function", .text gate.function), ("parameter", .text label),
      ("expected_type", .text expected)]
  let reporter ← gate.reporterInForce
  let _ ← reporter.report (gate.violation label expected v description)
  pure ()

def inspection (gate : Gate) : Inspection Run where
  check := Registry.checkIn gate.registry
  resolve v path := Run.ofExcept (v.resolve path)
  report := gate.report

def pass (gate : Gate) (arguments : Arguments) : Run Unit :=
  gate.inspect gate.inspection arguments

end Gate

end CallGuard
