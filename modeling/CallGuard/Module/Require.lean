import CallGuard.Config.Loading
import CallGuard.Facade.Operations
import CallGuard.Module.File

/-!
Requiring a module on behalf of a host: the path is the path of a file, seen from the directory of
the host, or the name of a module, seen from its package. The module is loaded and wrapped in a
facade, with gates for the parameter lines of its exports when validation is enabled.
-/

namespace CallGuard.Module

open CallGuard.Files

def wrapSite : Log.Site := ⟨"loader", "loader", "wrap"⟩

def requireSite : Log.Site := ⟨"loader", "loader", "require"⟩

variable [Platform]

/-- Logs a message about a module by its own name; one that cannot be shown leaves no message. -/
def logNamed (site : Log.Site) (name : Value) (message : String → String)
    (extra : Table Value) : Run Unit :=
  match name.plain with
  | .error _ => pure ()
  | .ok shown => Run.log site debugSeverity (message shown) extra

/-- The parameter lines of exports, unless validation is disabled. -/
def declarationsOf (names : Namespace) (exported : List Value) : Run (Table (List Value)) := do
  let settings ← Config.current
  if settings.enabled then Namespace.declarations <$> Namespace.scan names [] exported
  else
    let name ← Namespace.read names Namespace.ownName
    logNamed wrapSite name
      (fun shown => "Validation disabled, facade for " ++ shown ++ " will only delegate") []
    pure []

/-- Keeps the annotations of a module that are made when a scan asks for them. -/
def keepAnnotations (module : Module) (scanned : Table (List Value)) : Run Unit :=
  modify fun session =>
    let names := session.namespaceAt module.names
    if Table.has scanned Namespace.ownAnnotations &&
        !Table.has names Namespace.ownAnnotations then
      session.setNamespace module.names (Table.put names Namespace.ownAnnotations (.mapping []))
    else session

def wrap (module : Module) (registry : Option RegistryId) (reporter : Option Reporter) :
    Run FacadeId := do
  let names ← module.namesOf
  let exported ← Namespace.exported names
  let declarations ← declarationsOf names exported
  keepAnnotations module declarations
  let name ← Namespace.read names Namespace.ownName
  Facade.wrap name module.names true declarations registry reporter

/-- On whose behalf a module is required. -/
inductive Host
  | loaded (name : String)
  | value (v : Value)

/-- The directory of a host; one that is given in bytes cannot be joined with a text. -/
inductive Directory
  | none
  | path (text : String)
  | bytes
  deriving DecidableEq, Repr, Inhabited

/-- Where paths and names are seen from: the directory and the package of a host. -/
structure Anchors where
  directory : Directory
  package : Value
  deriving Inhabited

def notPath (v : Value) : Raised :=
  ⟨"TypeError", "expected str, bytes or os.PathLike object, not " ++ v.typeName⟩

def directoryOf (workingDirectory : String) (file : Value) : Except Raised Directory :=
  if !file.truthy then .ok .none
  else
    match file with
    | .text path => .ok (.path (directoryName (absolute workingDirectory path)))
    | .bytes _ => .ok .bytes
    | v => .error (notPath v)

def anchors (module : Module) : Run Anchors := do
  let session ← get
  let names ← module.namesOf
  let file ← Namespace.read? names Namespace.ownFile
  let directory ← Run.ofExcept (directoryOf session.workingDirectory (file.getD .null))
  let package ← Namespace.read names Namespace.ownPackage
  pure ⟨directory, if package.truthy then package else .null⟩

def anchorsOf (host : Host) : Run Anchors := do
  let session ← get
  match host with
  | .loaded name =>
    match loaded? session name with
    | some module => module.anchors
    | none => Run.raise (.about "KeyError" name)
  | .value (.text host) =>
    match loaded? session host with
    | some module => module.anchors
    | none => pure ⟨.path (directoryName (absolute session.workingDirectory host)), .null⟩
  | .value (.module _) => pure ⟨.none, .null⟩
  | .value v => throw (.configuration (.badHost v.typeName))

def Host.isGiven : Host → Bool
  | .loaded _ => true
  | .value v => v.truthy

def refusePath (v : Value) : Run Module :=
  match v with
  | .bytes _ | .byteArray _ =>
    Run.raise ⟨"TypeError", "a bytes-like object is required, not 'str'"⟩
  | v => do
    let isFront ← v.callAttribute "startswith" [.tuple (pathFronts.map Value.text)]
    if !isFront.truthy then
      let _ ← v.callAttribute "endswith" [.text sourceSuffix]
    Run.raise (notPath v)

/-- The kinds of errors of an import that count as a module that could not be loaded. -/
def importErrorKinds : List String := ["ImportError", "ModuleNotFoundError", "TypeError"]

/-- Fails because a module could not be imported; the error has to have a text. -/
def failImport {α : Type} (path : String) (package : Value) (e : Raised) : Run α := do
  let cause ← Run.ofExcept e.told
  throw (.load (.importFailed path package cause))

def importFor (path : String) (package : Value) : Run Module :=
  tryCatch (importName path package) fun failure =>
    match failure with
    | .raised e =>
      if importErrorKinds.contains e.kind then failImport path package e else throw failure
    | failure => throw failure

def startOf (directory : Directory) (path : String) : Except Raised (Option String) :=
  match directory with
  | .none => .ok none
  | .path text => .ok (some text)
  | .bytes =>
    if isAbsolute path then .ok none
    else .error ⟨"TypeError", "Can't mix strings and bytes in path components"⟩

def load (path : String) (anchors : Anchors) : Run Module := do
  if isFilePath path then
    let session ← get
    let directory ← Run.ofExcept (startOf anchors.directory path)
    match resolveFile session.files session.workingDirectory directory path with
    | .ok file => loadFile file
    | .error fault => throw (.load fault)
  else importFor path anchors.package

def require (path : Value) (host : Host) (registry : Option RegistryId)
    (reporter : Option Reporter) : Run FacadeId := do
  if !path.truthy then throw (.configuration .noPath)
  if !host.isGiven then throw (.configuration .noHost)
  let anchors ← anchorsOf host
  let module ←
    match path with
    | .text path => load path anchors
    | v => refusePath v
  let name ← Namespace.read (← module.namesOf) Namespace.ownName
  logNamed requireSite name (fun shown => "Loaded module " ++ shown ++ " for validation")
    [("path", path)]
  module.wrap registry reporter

end CallGuard.Module
