import CallGuard.Config.Loading

/-!
Setting up logging: the handlers before are taken away, a new one is added, and then the level is
set. What is not given is taken from the settings, which are asked for only in that case. A level
that is not known is found out after the handlers have been replaced.
-/

namespace CallGuard.Log

variable [Platform]

def levelOf (v : Value) : Except Raised Int :=
  match v with
  | .bool b => .ok (if b then 1 else 0)
  | .int n => .ok n
  | .text name =>
    match severityOf? name with
    | some severity => .ok severity
    | none => .error ⟨"ValueError", "Unknown level: " ++ Text.quoted name⟩
  | v =>
    match v.written with
    | .ok written => .error ⟨"TypeError", "Level not an integer or a valid string: " ++ written⟩
    | .error e => .error e

/-- What logging is set up with: the level and the form of the lines. -/
def choices (level json : Value) : Run (Value × Bool) := do
  match level, json with
  | .null, _ | _, .null =>
    let settings ← Config.current
    let level := if level.truthy then level else .text settings.level.name
    let json := match json with
      | .null => settings.jsonLogs
      | json => json.truthy
    pure (level, json)
  | level, json => pure (level, json.truthy)

/-- How a level in force is shown: a truth value stays one. -/
def levelShown (level : Value) (severity : Int) : Value :=
  match level with
  | .bool b => .bool b
  | _ => .int severity

/-- Sets logging up and tells which handler and which level are in place. -/
def setUp (level json : Value) : Run (Handler × Value) := do
  let (level, json) ← choices level json
  let session ← get
  let handler : Handler := ⟨session.journal.handlersMade, json⟩
  modify fun session => { session with journal := session.journal.clear }
  modify fun session => { session with journal := session.journal.attach json }
  let severity ← Run.ofExcept (levelOf level)
  modify fun session => { session with journal := { session.journal with level := severity } }
  pure (handler, levelShown level severity)

end CallGuard.Log
