import CallGuard.Module.Content
import CallGuard.Module.Exports

/-!
Importing modules by name. The packages on the way are imported first; a module is looked for in the
directories on the path of its package, or in the working directory when it has none. In a directory
a package with a file of its own comes before a module file; directories without such a file are
taken together when nothing else is found anywhere. A module whose body fails is not kept, and
neither is it an attribute of its package.
-/

namespace CallGuard.Module

open CallGuard.Files

/-- The name of the file of a package without its suffix. -/
def packageStem : String := "__init__"

/-- The module that is loaded under a name. -/
def loaded? (session : Session) (name : String) : Option Module :=
  session.modules.lookup name

def namesOf (module : Module) : Run Namespace := do
  let session ← get
  pure (session.namespaceAt module.names)

/--
Runs the body of a new module: its namespace is filled with fresh copies of what the body defines.
A body that fails raises its error, and the module is not kept.
-/
def execute (name : String) (initial : Namespace) (source : ModuleSource) : Run Module := do
  let session ← get
  let copy := session.copies + 1
  let members := source.members.map fun member => (member.1, member.2.withCopy copy)
  let names := Namespace.define initial members (source.exports.map (Value.withCopy copy))
  let (place, session) := session.addNamespace names
  let session := { session with copies := copy }
  let module : Module := { name, names := place }
  match source.failure with
  | some e =>
    set session
    Run.raise e
  | none =>
    set { session with modules := session.modules ++ [(name, module)] }
    pure module

/-- Where a module was found: in a file, which may be that of a package, or in bare directories. -/
inductive Origin
  | file (path : String) (format : Format) (content : Content) (package : Option String)
  | directories (all : List String)
  deriving Inhabited

/-- A path below a directory; slashes at the end of the directory do not count. -/
def below (directory part : String) : String :=
  String.ofList ((directory.toList.reverse.dropWhile (· == '/')).reverse) ++ "/" ++ part

/-- The first file that stands at a path with one of the suffixes of module files. -/
def fileAt? (session : Session) (path : String) : Option (String × Format × Content) :=
  suffixes.findSome? fun (suffix, format) =>
    (session.files.content? session.workingDirectory (path ++ suffix)).map fun content =>
      (path ++ suffix, format, content)

/-- Looks for a module in a directory; an empty path is that of the working directory. -/
def originIn? (session : Session) (directory part : String) : Option Origin :=
  let root := join session.workingDirectory directory
  let place := below root part
  let packaged := if part.isEmpty then none else fileAt? session (below place packageStem)
  if part.toList.contains '/' || !session.files.isDirectory session.workingDirectory root then none
  else
    match packaged, fileAt? session place with
    | some (file, format, content), _ => some (.file file format content (some place))
    | none, some (file, format, content) => some (.file file format content none)
    | none, none =>
      if !part.isEmpty && session.files.isDirectory session.workingDirectory place then
        some (.directories [place])
      else none

/-- Looks for a module in directories in order; bare directories are taken together. -/
def origin? (session : Session) (part : String) (bare : List String) :
    List Value → Option Origin
  | [] => if bare.isEmpty then none else some (.directories bare)
  | .text directory :: rest =>
    match originIn? session directory part with
    | some (.directories all) => origin? session part (bare ++ all) rest
    | some found => some found
    | none => origin? session part bare rest
  | _ :: rest => origin? session part bare rest

/-- The directories that a path stands for: an empty one is that of all modules. -/
def directoriesOf (session : Session) (path : Value) : Except Raised (List Value) :=
  match path with
  | .null => .ok [.text session.workingDirectory]
  | path => path.items

/-- Loads a module from where it was found, in a package with a name. -/
def loadFrom (name package : String) (origin : Origin) : Run Module := do
  match origin with
  | .file file format content directory => do
    let home := if directory.isSome then name else package
    let source ← Run.ofExcept (definition format name file content)
    execute name
      (Namespace.core name (.text home) ++ Namespace.ofFile file (directory.map fun d => [d]))
      source
  | .directories all =>
    execute name (Namespace.core name (.text name) ++ Namespace.ofDirectories all)
      ⟨[], none, none⟩

/-- The error of a module that is not there. -/
def notFound (name : String) : Raised :=
  ⟨"ModuleNotFoundError", "No module named " ++ Text.quoted name⟩

def notPackage (name parent : String) : Raised :=
  ⟨"ModuleNotFoundError",
    "No module named " ++ Text.quoted name ++ "; " ++ Text.quoted parent ++ " is not a package"⟩

def attach (parent : Module) (part : String) (module : Module) : Run Unit :=
  modify fun session =>
    session.setNamespace parent.names
      (Table.put (session.namespaceAt parent.names) part (.module module.name))

def findOn (path : Value) (name part : String) : Run Origin := do
  let session ← get
  let directories ← Run.ofExcept (directoriesOf session path)
  match origin? session part [] directories with
  | none => Run.raise (notFound name)
  | some origin => pure origin

/-- Bare directories in a package belong to the path of the package, which has to be one. -/
def Origin.requirePath (origin : Origin) (path : Value) : Run Unit :=
  match origin with
  | .directories _ => do
    let _ ← Run.ofExcept path.items
    pure ()
  | .file .. => pure ()

variable [Platform]

/-- Loads a module of a package, whose path says where to look for it. -/
def loadInside (parent : Module) (name part : String) : Run Module := do
  let names ← parent.namesOf
  match ← Namespace.read? names Namespace.ownPath with
  | none => Run.raise (notPackage name parent.name)
  | some path => do
    let marker ← Namespace.read names Namespace.ownOrigin
    let origin ← findOn path name part
    origin.requirePath path
    if marker.truthy then Run.raise (marker.noAttribute "_uninitialized_submodules")
    let module ← loadFrom name parent.name origin
    parent.attach part module
    pure module

/--
Imports a module by the parts of its name, the last part first. A module stands alone unless there
is a name before its last part.
-/
def importParts : List String → Run Module
  | [] => Run.raise ⟨"ValueError", "Empty module name"⟩
  | part :: before => do
    let name := ".".intercalate (before.reverse ++ [part])
    let session ← get
    match loaded? session name with
    | some module => pure module
    | none =>
      if (".".intercalate before.reverse).isEmpty then do
        let origin ← findOn .null name part
        loadFrom name "" origin
      else do
        let parent ← importParts before
        parent.loadInside name part

def leadingDots (name : String) : Nat :=
  (name.toList.takeWhile (· == '.')).length

/-- The full name of a module, seen from the package that anchors relative names. -/
def fullName (name : String) (package : Value) : Except Raised String :=
  let level := leadingDots name
  if level = 0 then .ok name
  else if !package.truthy then
    .error ⟨"TypeError", "the 'package' argument is required to perform a relative import for " ++
      Text.quoted name⟩
  else
    match package with
    | .text package =>
      let parts := (Text.pieces '.' package.toList).map String.ofList
      if parts.length < level then
        .error ⟨"ImportError", "attempted relative import beyond top-level package"⟩
      else
        let base := ".".intercalate (parts.take (parts.length + 1 - level))
        let rest := String.ofList (name.toList.drop level)
        .ok (if rest.isEmpty then base else base ++ "." ++ rest)
    | _ => .error ⟨"TypeError", "__package__ not set to a string"⟩

/-- The largest number of parts of a name; each part but the last is that of a package. -/
def deepestName : Nat := 246

def tooDeepName : Raised :=
  ⟨"RecursionError", "maximum recursion depth exceeded"⟩

/-- Imports a module by its name, seen from a package. -/
def importName (name : String) (package : Value) : Run Module := do
  let full ← Run.ofExcept (fullName name package)
  if full.isEmpty then importParts []
  else
    let parts := (Text.pieces '.' full.toList).map String.ofList
    if parts.length > deepestName then Run.raise tooDeepName else importParts parts.reverse

end CallGuard.Module
