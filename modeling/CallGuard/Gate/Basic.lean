import CallGuard.Parameter.Basic
import CallGuard.Reporter.Basic

/-!
Gates: what is checked of the arguments of one function. The k-th parameter is checked against the
k-th positional argument, or else the argument of its name; a missing one is passed over. Properties
are checked only of a parameter that passes, and every failed check is reported. How checks, paths
and reports are carried out is left open here.
-/

namespace CallGuard

/-- The place of a registry among those of a session. -/
abbrev RegistryId := Nat

/-- A gate: the function it guards, the parameters declared, and its own registry and reporter. -/
structure Gate where
  function : String
  outline : Outline
  registry : Option RegistryId := none
  reporter : Option Reporter := none
  deriving Inhabited

/-- The means by which a gate checks values, follows paths and reports failed checks. -/
structure Inspection (m : Type → Type) where
  check : String → Value → m Bool
  resolve : Value → String → m Value
  report : String → String → Value → String → m Unit

namespace Gate

/-- The names of the parameters in order. -/
def parameterNames (gate : Gate) : List String :=
  gate.outline.map (·.name)

def text (gate : Gate) : String :=
  "ValidationGate(" ++ gate.function ++ ": " ++ ", ".intercalate gate.parameterNames ++ ")"

/-- The argument of a parameter, given by position or by name. -/
def argument? (arguments : Arguments) (place : Nat) (name : String) : Option Value :=
  match arguments.positional[place]? with
  | some v => some v
  | none => arguments.named.lookup name

variable {m : Type → Type} [Monad m]

def inspectProperty (inspection : Inspection m) (v : Value) (constraint : PropertyConstraint) :
    m Unit := do
  let nested ← inspection.resolve v constraint.path
  if ← inspection.check constraint.tag nested then pure ()
  else inspection.report constraint.label constraint.tag nested constraint.description

/-- Checks properties of a value in order. -/
def inspectProperties (inspection : Inspection m) (v : Value) : List PropertyConstraint → m Unit
  | [] => pure ()
  | constraint :: rest => do
    inspectProperty inspection v constraint
    inspectProperties inspection v rest

/-- Checks the argument of a parameter, and its properties if it passes. -/
def inspectArgument (inspection : Inspection m) (parameter : Parameter) (v : Value) : m Unit := do
  if ← inspection.check parameter.tag v then
    inspectProperties inspection v parameter.properties
  else inspection.report parameter.name parameter.tag v parameter.description

/-- Checks the arguments of parameters in order, from a place on. -/
def inspectFrom (inspection : Inspection m) (arguments : Arguments) : Nat → Outline → m Unit
  | _, [] => pure ()
  | place, parameter :: rest => do
    match argument? arguments place parameter.name with
    | none => pure ()
    | some v => inspectArgument inspection parameter v
    inspectFrom inspection arguments (place + 1) rest

def inspect (inspection : Inspection m) (gate : Gate) (arguments : Arguments) : m Unit :=
  inspectFrom inspection arguments 0 gate.outline

end Gate

end CallGuard
