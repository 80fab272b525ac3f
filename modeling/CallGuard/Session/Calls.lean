import CallGuard.Session.Basic
import CallGuard.Value.Path

/-!
Calls. A call of a callable is recorded before its behaviour decides on the outcome, so a call that
raises has been made as well. A callable that suspends only takes its arguments when it is called:
it runs, and its call is recorded, when its result is awaited. Arguments that do not fit it end the
call at once.
-/

namespace CallGuard

def iterationEndKind : String := "StopIteration"

def escapedIterationEnd : Raised :=
  ⟨"RuntimeError", "coroutine raised StopIteration"⟩

/-- Runs the suspended rest of a call. Its errors pass, except for the end of an iteration. -/
def Run.resumed {α : Type} (rest : Run α) : Run α :=
  tryCatch rest fun failure =>
    match failure with
    | .raised e =>
      if e.kind = iterationEndKind then Run.raise escapedIterationEnd else throw failure
    | failure => throw failure

/-- The value of an operation, unless it raises that an attribute is missing. -/
def Run.unlessMissing {α : Type} (operation : Run α) : Run (Option α) :=
  tryCatch (some <$> operation) fun failure =>
    match failure with
    | .raised e => if e.kind = attributeErrorKind then pure none else throw failure
    | failure => throw failure

/--
Runs a callable. It answers by its arguments and by what has been called before, and it does not
call back: apart from the calls that are recorded, nothing of the session changes while it runs.
-/
def Callable.run (c : Callable) (arguments : Arguments) : Run Value := do
  let session ← get
  set { session with invocations := ⟨c.id, arguments⟩ :: session.invocations }
  Run.ofExcept (session.behaviour c.id session.invocations arguments)

/-- Refuses a call of a callable for its arguments: it is recorded, but nothing runs. -/
def Callable.refuse (c : Callable) (arguments : Arguments) (e : Raised) : Run Value := do
  modify fun session => { session with invocations := ⟨c.id, arguments⟩ :: session.invocations }
  Run.raise e

namespace Value

variable [Platform]

/-- Calls a value. Where a call suspends, its arguments have to fit before anything runs. -/
def call (v : Value) (arguments : Arguments) : Run Value :=
  match v with
  | .callable c =>
    if c.suspends then
      match Platform.binds c arguments with
      | .ok _ => pure (.suspended c arguments.positional arguments.named)
      | .error e => c.refuse arguments e
    else c.run arguments
  | v => Run.raise v.notCallable

/-- Calls what an attribute of a value holds; the value has to have the attribute. -/
def callAttribute (v : Value) (name : String) (arguments : List Value) : Run Value := do
  match ← Run.ofExcept (v.attribute? name) with
  | none => Run.raise (v.noAttribute name)
  | some held => held.call ⟨arguments, []⟩

/-- The error of awaiting a value that is not the suspended rest of a call. -/
def notAwaitable (v : Value) : Raised :=
  ⟨"TypeError", "object " ++ v.fullTypeName ++ " can't be used in 'await' expression"⟩

/-- Awaits a value: the suspended rest of a call runs. -/
def await : Value → Run Value
  | .suspended c positional named => Run.resumed (c.run ⟨positional, named⟩)
  | v => Run.raise v.notAwaitable

end Value

variable [Platform]

def Predicate.answer (predicate : Predicate) (v : Value) : Run Bool :=
  match predicate with
  | .builtin type => pure (type.accepts v)
  | .custom p => do
    let answer ← p.call ⟨[v], []⟩
    pure answer.truthy

end CallGuard
