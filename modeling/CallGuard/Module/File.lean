import CallGuard.Module.Import

/-!
Loading modules from files. A path is resolved to one file, and the module of a file is kept under
a name made from its resolved path, so that its body runs until it has succeeded once. A body that
fails leaves no module behind.
-/

namespace CallGuard.Module

open CallGuard.Files

def fileSite : Log.Site := ⟨"loader", "loader", "_load_file"⟩

def pathFronts : List String := ["./", "../", "/", ".\\", "..\\"]

/-- Whether a text is the path of a file and not the name of a module. -/
def isFilePath (path : String) : Bool :=
  pathFronts.any (fun front => path.startsWith front) || path.endsWith sourceSuffix

/-- The place that a path names, seen from a directory, or else from the working directory. -/
def candidate (workingDirectory : String) (directory : Option String) (path : String) : String :=
  if isAbsolute path then path
  else
    match directory with
    | some directory => normal (join directory path)
    | none => absolute workingDirectory path

def packageFile : String := packageStem ++ sourceSuffix

/-- The file that a place stands for: that of a package, or the one with the suffix added. -/
def fileFor (tree : Tree) (workingDirectory place : String) : String :=
  if tree.isDirectory workingDirectory place then join place packageFile
  else if !place.endsWith sourceSuffix && !tree.hasNode workingDirectory place then
    place ++ sourceSuffix
  else place

def resolveFile (tree : Tree) (workingDirectory : String) (directory : Option String)
    (path : String) : Except LoadFault String :=
  let file := fileFor tree workingDirectory (candidate workingDirectory directory path)
  if tree.isFile workingDirectory file then .ok file else .error (.notFound path file)

/-- The part of a module's name taken from its file; a package gives that of its directory. -/
def fileStem (file : String) : String :=
  let name := stem (baseName file)
  if name = packageStem then baseName (directoryName file) else name

variable [Platform]

/-- The name of the module of a file: files of one stem are told apart by digests of their paths. -/
def fileModuleName (file : String) : String :=
  "_paramount_" ++ fileStem file ++ "_" ++ Platform.digest file

def packageDirectory? (file : String) : Option String :=
  if stem (baseName file) = packageStem then some (directoryName file) else none

/-- The names that the module of a file has before its body runs. -/
def initialNames (file : String) : Namespace :=
  let directory := packageDirectory? file
  let name := fileModuleName file
  let home := if directory.isSome then name else ""
  Namespace.core name (.text home) ++
    Namespace.ofFile file (directory.map fun directory => [directory])

/-- Fails because the body of a file has failed, which is logged; its error has to have a text. -/
def failBody {α : Type} (file : String) (e : Raised) : Run α := do
  let cause ← Run.ofExcept e.told
  Run.log fileSite errorSeverity ("Failed to execute module " ++ file ++ ": " ++ cause.text)
    [("path", .text file), ("error", .text cause.text)]
  throw (.load (.bodyFailed file cause))

/-- Runs the body of a file of a format, which may fail. -/
def runBody (file : String) (format : Format) (content : Content) : Run Module :=
  let name := fileModuleName file
  let body : Run Module := do
    let source ← Run.ofExcept (definition format name file content)
    execute name (initialNames file) source
  tryCatch body fun failure =>
    match failure with
    | .raised e => failBody file e
    | failure => throw failure

/-- Loads the module of a file, unless it is loaded. An extension is linked before any body runs. -/
def loadFile (file : String) : Run Module := do
  let session ← get
  match loaded? session (fileModuleName file), formatOf? file with
  | some module, _ => pure module
  | none, none => throw (.load (.notLoadable file))
  | none, some format =>
    let content := (session.files.content? session.workingDirectory file).getD (.bytes [])
    match format with
    | .extension => Run.raise (linkError file content)
    | format => runBody file format content

end CallGuard.Module
