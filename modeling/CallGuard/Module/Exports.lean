import CallGuard.Docstring
import CallGuard.Module.Attributes

/-!
The namespace of a module, what the module exports, and the parameter lines of its exports. A module
may list its exports itself; otherwise they are the public names that do not stand for modules.
-/

namespace CallGuard.Namespace

def core (name : String) (package : Value) : Namespace :=
  [(ownName, .text name), ("__doc__", .null), (ownPackage, package), ("__loader__", .null),
    (ownOrigin, .null)]

def pathOf (directories : List String) : Namespace :=
  [(ownPath, .list (directories.map Value.text))]

/-- The further names of a module that is loaded from a file, and the path of a package. -/
def ofFile (file : String) (directories : Option (List String)) : Namespace :=
  (directories.map pathOf).getD [] ++
    [(ownFile, .text file), ("__cached__", .null), ("__builtins__", .null)]

def ofDirectories (directories : List String) : Namespace :=
  (ownFile, .null) :: pathOf directories

/-- Adds what the body of a module defines: its members, and the list of its exports. -/
def define (names : Namespace) (members : List (String × Value)) (exports : Option Value) :
    Namespace :=
  let defined := members.foldl (fun names member => Table.put names member.1 member.2) names
  match exports with
  | some v => Table.put defined exportList v
  | none => defined

def isModule : Value → Bool
  | .module _ => true
  | _ => false

/-- The public names that do not stand for modules. -/
def publicNames (names : Namespace) : List String :=
  Table.names (names.filter fun entry => !entry.1.startsWith "_" && !isModule entry.2)

variable [Platform]

/-- The exports of a module: those it lists, or else its public names. -/
def exported (names : Namespace) : Run (List Value) := do
  match ← read? names exportList with
  | none | some .null => pure ((publicNames names).map Value.text)
  | some listed => Run.ofExcept listed.items

def linesOf (names : Namespace) (name : String) : Run (Option (List String)) := do
  let member ← read? names name
  pure (member.bind Value.parameterLines)

/-- The parameter lines of exports; a name that is repeated counts once. -/
def scan (names : Namespace) : Table (Option (List String)) → List Value →
    Run (Table (Option (List String)))
  | found, [] => pure found
  | found, .text name :: rest => do
    let lines ← linesOf names name
    scan names (Table.put found name lines) rest
  | _, v :: _ => Run.raise v.badAttributeName

/-- The lines that a scan has found, by name. -/
def declarations (found : Table (Option (List String))) : Table (List Value) :=
  found.map fun entry => (entry.1, (entry.2.getD []).map Value.text)

end CallGuard.Namespace
