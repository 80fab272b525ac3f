import CallGuard.Docstring
import CallGuard.Facade.Operations

/-!
Guarding a single callable by its own documentation: a gate is built from its parameter lines, and
every call passes the gate first. A callable without parameter lines is left as it is.
-/

namespace CallGuard

/-- A guarded callable: what is called, and the gate before it, if it has one. -/
structure Guarded where
  target : Callable
  gate : Option Gate
  deriving Inhabited

namespace Guarded

def site : Log.Site := ⟨"decorators", "decorators", "decorator"⟩

/-- The name of a guard that stands in for something without a name. -/
def guardName (suspends : Bool) : String :=
  if suspends then "async_wrapper" else "sync_wrapper"

/-- Where guards are made, as it is shown in the name of one that has no name of its own. -/
def guardHome : String := "validate_params.<locals>.decorator.<locals>."

variable [Platform]

/-- Logs that a callable is left as it is; one whose name cannot be shown leaves no message. -/
def logUnguarded (name : Value) : Run Unit :=
  match name.plain with
  | .error _ => pure ()
  | .ok shown =>
    Run.log site debugSeverity
      ("No parameter declarations on " ++ shown ++ ", leaving it unwrapped") []

/-- The looks of the guard of a callable. -/
def guardLooks (c : Callable) : Except Raised Appearance :=
  c.standIn (guardName c.announcesSuspension) guardHome

/--
Guards a callable. It has to have the name that is shown for it when it is left as it is, and the
name of its gate otherwise; the guard takes over its looks. A name that is no text stands for the
text that shows it; the guard does not come about with it, since its looks are refused.
-/
def make (c : Callable) (registry : Option RegistryId) (reporter : Option Reporter) :
    Run Guarded := do
  match c.parameterLines with
  | none => do
    let name ← Run.ofExcept ((Value.callable c).requireAttribute Callable.shownName)
    logUnguarded name
    pure ⟨c, none⟩
  | some lines => do
    let name ← Run.ofExcept ((Value.callable c).requireAttribute Callable.ownName)
    let function ← Run.ofExcept name.plain
    let gate ← Gate.build function (lines.map Value.text) registry reporter
    let _ ← Run.ofExcept (guardLooks c)
    pure ⟨c, some gate⟩

def call (guarded : Guarded) (arguments : Arguments) : Run Reply :=
  match guarded.gate with
  | none => do
    let result ← (Value.callable guarded.target).call arguments
    pure (.ofValue result)
  | some gate =>
    let invoke : Run Value := do
      gate.pass arguments
      (Value.callable guarded.target).call arguments
    if guarded.target.announcesSuspension then
      pure (.suspended (Run.resumed do
        let result ← invoke
        result.await))
    else do
      let result ← invoke
      pure (.ofValue result)

/-- How a guarded callable looks: like itself, or as its guard. -/
def appearance (guarded : Guarded) : Except Raised Appearance :=
  match guarded.gate with
  | none => Facade.valueAppearance (.callable guarded.target)
  | some _ => guardLooks guarded.target

end Guarded

end CallGuard
