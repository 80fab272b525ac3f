import CallGuard.Session.Basic

/-!
Loading the settings of a session. A load first lays the environment file, if there is one, over
the variables of the session, and then reads the settings from the variables. A load that fails
keeps the settings as they were; what the file has set stays set in any case.
-/

namespace CallGuard.Config

open CallGuard.Files CallGuard.Log

def site : Site := ⟨"config.loader", "loader", "load_config"⟩

def defaultFile : String := ".env"

def filePath (workingDirectory : String) (file : Option String) : String :=
  match file with
  | none => tidy (join workingDirectory defaultFile)
  | some path => if path.isEmpty then tidy (join workingDirectory defaultFile) else tidy path

/-- The error of asking for a path that cannot be followed because a name on it is too long. -/
def nameTooLong (path : String) : Cause :=
  ⟨"OSError", "[Errno 36] File name too long: " ++ Text.quoted path⟩

variable [Platform]

/-- Fails because an environment file could not be laid over the variables, which is logged. -/
def refuseFile (path : String) (cause : Cause) : Run Unit := do
  Run.log site errorSeverity ("Failed to load .env file from " ++ path ++ ": " ++ cause.text)
    [("path", .text path), ("error", .text cause.text)]
  throw (.configuration (.unreadableFile path cause))

/-- Lays bindings over the variables of the session. -/
def layOver (path : String) (bindings : List Binding) : Run Unit := do
  let session ← get
  let (environment, fault) := overlay session.environment (Table.ofList bindings)
  modify fun session => { session with environment }
  match fault with
  | none => pure ()
  | some e => refuseFile path e

/-- Lays the environment file over the variables of the session. -/
def loadFile (path : String) : Run Unit := do
  let session ← get
  if session.files.meetsLongName session.workingDirectory path then
    Run.raise (nameTooLong path).raised
  else if session.files.hasNode session.workingDirectory path then
    Run.log site infoSeverity ("Loading environment from " ++ path) []
    match Platform.bindings session.environment
        (session.files.content? session.workingDirectory path) with
    | .error e => refuseFile path e
    | .ok bindings => layOver path bindings
  else Run.log site debugSeverity "No .env file found, using environment variables only" []

/-- How many faults there are, in words. -/
def faultCount (faults : List Fault) : String :=
  toString faults.length ++
    (if faults.length = 1 then " validation error" else " validation errors")

/-- Reads the settings from the variables of the session and puts them in force. -/
def readSettings : Run LoadedSettings := do
  let session ← get
  match Settings.read (Table.get? session.environment) with
  | .error faults =>
    Run.log site errorSeverity
      ("Configuration validation failed: " ++ faultCount faults ++ " for ParamountConfig")
      [("validation_errors", .list (faults.map Fault.value))]
    throw (.configuration (.badSettings faults))
  | .ok settings =>
    let loaded : LoadedSettings := ⟨settings, session.loads⟩
    modify fun session => { session with settings := some loaded, loads := session.loads + 1 }
    Run.log site debugSeverity ("Configuration loaded (environment: " ++ settings.stage.name ++ ")")
      [("environment", .text settings.stage.name),
        ("reporter_mode", .text settings.reporter.name)]
    pure loaded

def reload (file : Option String) : Run LoadedSettings := do
  let session ← get
  loadFile (filePath session.workingDirectory file)
  readSettings

/-- The settings in force, or else those of a load. -/
def load (file : Option String) : Run LoadedSettings := do
  let session ← get
  match session.settings with
  | some loaded => pure loaded
  | none => reload file

/-- The settings in force; the first time they are loaded. -/
def current : Run Settings := do
  let loaded ← load none
  pure loaded.settings

end CallGuard.Config
